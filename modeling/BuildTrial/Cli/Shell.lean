import BuildTrial.Kubeconfig.Endpoint
import BuildTrial.Timed

/-!
# The surroundings of a command

A command reads files, prints lines and connects to a cluster. Each can be asked for by a program;
what may go wrong with reading is told by a cause.
-/

namespace BuildTrial.Cli

inductive FileFault where
  /-- The system refuses, with a number. -/
  | system (description : String) (number : Nat)
  | notText
  /-- A zero in the path, which no file name has. -/
  | zeroInPath
deriving DecidableEq, Repr

namespace FileFault

def notFound : FileFault := .system "No such file or directory" 2

def notDirectory : FileFault := .system "Not a directory" 20

def isDirectory : FileFault := .system "Is a directory" 21

def nameTooLong : FileFault := .system "File name too long" 36

def message : FileFault → String
  | .system description number => s!"{description} (os error {number})"
  | .notText => "stream did not contain valid UTF-8"
  | .zeroInPath => "file name contained an unexpected NUL byte"

end FileFault

/-- What a command asks for. -/
inductive ShellCall where
  | read (path : String)
  | print (line : String)
  /-- Connect to a cluster, or look for one if none is given. -/
  | connect (endpoint : Option Endpoint)

@[reducible] def shellInterface : Interface where
  Query := ShellCall
  Reply
    | .read _ => Except FileFault (List UInt8)
    | .print _ => Unit
    /- A failure has a reason. -/
    | .connect _ => Except String Unit

abbrev ShellProgram (α : Type) : Type := Program shellInterface.timed α

namespace ShellProgram

def read (path : String) : ShellProgram (Except FileFault (List UInt8)) :=
  .ask (.call (.read path)) .done

def readText (path : String) : ShellProgram (Except FileFault String) := do
  return (← read path).bind fun bytes => (Text.ofUtf8 bytes).mapError fun _ => .notText

def print (line : String) : ShellProgram Unit := .ask (.call (.print line)) .done

def connect (endpoint : Option Endpoint) : ShellProgram (Except String Unit) :=
  .ask (.call (.connect endpoint)) .done

end ShellProgram

end BuildTrial.Cli
