import BuildTrial.Cli.Shell

/-!
# Rehearsed surroundings of a command

A directory with files, which stands for the current one, and the lines that were printed. Every
cluster can be connected to, but none is found that is not described.
-/

namespace BuildTrial.Rehearsal

open BuildTrial.Cli

abbrev Path := List String

abbrev Directory := List (Path × List UInt8)

namespace Directory

def ofFiles (files : List (String × List UInt8)) : Directory :=
  files.map fun (name, bytes) => (name.splitOn "/", bytes)

/-- Whether a file is at a path or below it. -/
def hasBelow (d : Directory) (path : Path) : Bool := d.any fun file => path.isPrefixOf file.1

/-- The longest name that a file can have, in bytes. -/
def maxNameLength : Nat := 255

/-- The length from which a path is too long, in bytes. -/
def pathLimit : Nat := 4096

/-- The file with a path; there are none outside of the directory. -/
def file? (d : Directory) (path : Option Path) : Option (List UInt8) :=
  path.bind fun path => List.lookup path d

/-- The file that is reached by going on with the given parts. What is reached already is a path in
the directory, or something outside of it, where only further directories are known. -/
def walk (d : Directory) (reached : Option Path) : Path → Except FileFault (List UInt8)
  | [] =>
    match d.file? reached with
    | some bytes => .ok bytes
    | none => .error .isDirectory
  | part :: rest =>
    if (d.file? reached).isSome then .error .notDirectory
    else if part.isEmpty ∨ part = "." then walk d reached rest
    -- a step up from the directory itself leaves it, and no name leads back in
    else if part = ".." then
      walk d (reached.bind fun path => if path.isEmpty then none else some path.dropLast) rest
    else if maxNameLength < part.utf8ByteSize then .error .nameTooLong
    else
      match reached with
      | some path =>
        if d.hasBelow (path ++ [part]) then walk d (some (path ++ [part])) rest
        else .error .notFound
      | none => .error .notFound

/-- The root directory, of which only the empty device is known. -/
def root : Directory := [(["dev", "null"], [])]

def read (d : Directory) (path : String) : Except FileFault (List UInt8) :=
  if path.toList.contains (Char.ofNat 0) then .error .zeroInPath
  else if path.isEmpty then .error .notFound
  else if pathLimit ≤ path.utf8ByteSize then .error .nameTooLong
  else
    match path.splitOn "/" with
    | "" :: rest => root.walk (some []) rest
    | parts => d.walk (some []) parts

end Directory

structure Shell where
  directory : Directory := []
  /-- The lines that were printed, last first. -/
  printed : List String := []

namespace Shell

def serve : (q : shellInterface.Query) → Shell → shellInterface.Reply q × Shell
  | .read path, s => (s.directory.read path, s)
  | .print line, s => ((), { s with printed := line :: s.printed })
  | .connect none, s => (.error "no cluster", s)
  | .connect (some _), s => (.ok (), s)

def output (s : Shell) : String := String.join (s.printed.reverse.map (· ++ "\n"))

end Shell

end BuildTrial.Rehearsal
