import BuildTrial.Cli.Execution

/-!
# The command line program

Answers what a command asks for with the file system, the clock and the terminal. It opens no
connections, so a run ends when it would connect.
-/

namespace BuildTrial.Cli

/-- The fault that a failure of the file system stands for. -/
def FileFault.ofFailure : IO.Error → FileFault
  | .noFileOrDirectory _ number description => .system description number.toNat
  | .permissionDenied _ number description => .system description number.toNat
  | .inappropriateType _ number description => .system description number.toNat
  | .invalidArgument _ number description => .system description number.toNat
  | e => .system (toString e) 5

def readFile (path : String) : IO (Except FileFault (List UInt8)) := do
  try
    return .ok (← IO.FS.readBinFile path).toList
  catch e => return .error (FileFault.ofFailure e)

def connectReason : Option Endpoint → String
  | none => "no cluster"
  | some endpoint => s!"no connection to {endpoint.server.text}"

/-- Answer a question of a command. No delay is stretched: nobody else tries to connect. -/
def answer : (q : shellInterface.timed.Query) → IO (shellInterface.timed.Reply q)
  | .call (.read path) => readFile path
  | .call (.print line) => IO.println line
  | .call (.connect endpoint) => return .error (connectReason endpoint)
  | .sleep span => IO.sleep (UInt32.ofNat span.ceilMillis)
  | .now => return .ofMillis (← IO.monoMsNow)
  | .jitter => return .none
  | .pick last => return ⟨(← IO.rand 0 last) % (last + 1), Nat.mod_lt _ last.succ_pos⟩

def perform {α : Type} : ShellProgram α → IO (Outcome α)
  | .done a => return .returned a
  | .panic payload => return .panicked payload
  | .ask query next => do perform (next (← answer query))

/-- What is said of a command line that is not carried out. -/
def Refusal.text : Refusal → String
  | .help | .empty =>
    "Usage: build-trial [--log-format <FORMAT>] <run|list> [OPTIONS] [SCENARIOS]..."
  | .version => "build-trial"
  | .missingCommand => "a command is missing"
  | .unknownCommand => "unknown command"
  | .unknownArgument => "unknown argument"
  | .repeatedSetting => "a setting is made twice"
  | .unwantedValue => "a value for a setting that takes none"
  | .invalidValue => "a value is missing or invalid"
  | .unknownBuilder => "unknown builder type"

/-- Say why a command line is not carried out; asking for help or the version is no fault. -/
def refuse (refusal : Refusal) : IO UInt32 := do
  match refusal with
  | .help | .version =>
    IO.println (Refusal.text refusal)
    return 0
  | _ =>
    IO.eprintln (Refusal.text refusal)
    return 2

end BuildTrial.Cli

open BuildTrial BuildTrial.Cli

def main (args : List String) : IO UInt32 := do
  let names := Form.run.settings.filterMap Setting.environmentName?
  let environment ← names.filterMapM fun name => do
    return (← IO.getEnv name).map fun value => (name, value)
  match Invocation.ofArguments (environment.lookup ·) args with
  | .error refusal => refuse refusal
  | .ok invocation =>
    match ← perform invocation.command.execute with
    | .returned (.ok ()) => return 0
    | .returned (.error e) =>
      IO.eprintln s!"Error: {e.message}"
      return 1
    | .panicked payload =>
      IO.eprintln payload.message
      return 101
