import BuildTrial.Cli.Connection
import BuildTrial.Cli.Invocation
import BuildTrial.Yaml.Form

/-!
# Carrying out commands

Both commands take their scenarios from the suite in a file or from the catalog. One lists them. The
other chooses some, overrides their settings, checks all of them and connects to the cluster; so no
connection is made for scenarios that cannot run.
-/

namespace BuildTrial

inductive CommandError where
  | trial (error : Error)
  | unreadable (path : String) (fault : Cli.FileFault)
  /-- The file holds no suite. -/
  | malformed (path : String)
  | unknownScenario (unknown : UnknownScenario)
  | nothingToRun
deriving DecidableEq

def CommandError.message : CommandError → String
  | .trial error => error.message
  | .unreadable path fault => s!"failed to read {path}: {fault.message}"
  | .malformed path => s!"yaml error in {path}"
  | .unknownScenario unknown => unknown.message
  | .nothingToRun => "no scenarios to run"

namespace Suite

/-- The valid suite in a text that stands in the file with the given path. -/
def ofFile (path text : String) : Except CommandError Suite :=
  match Yaml.suite? text with
  | none => .error (.malformed path)
  | some suite => suite.checked.mapError .trial

def load (path : String) : Cli.ShellProgram (Except CommandError Suite) := do
  match ← Cli.ShellProgram.readText path with
  | .error fault => return .error (.unreadable path fault)
  | .ok text => return ofFile path text

/-- The scenarios of the suite in a file; without a file those of the catalog. -/
def available : Option String → Cli.ShellProgram (Except CommandError (List ScenarioOptions))
  | some path => do return (← load path).map (·.scenarios)
  | none => return .ok Catalog.all

end Suite

namespace Cli

/-- A scenario in a list. -/
def listLine (o : ScenarioOptions) : String :=
  let extent := if o.rollout.isSome then "build + rollout" else "build"
  s!"  {Text.padRight 28 o.name} {o.builderType.text} pool={o.poolName} ({extent})"

def printAll : List ScenarioOptions → ShellProgram Unit
  | [] => return
  | o :: rest => do
    ShellProgram.print (listLine o)
    printAll rest

def list (config : Option String) : ShellProgram (Except CommandError Unit) := do
  match ← Suite.available config with
  | .error e => return .error e
  | .ok scenarios =>
    printAll scenarios
    return .ok ()

namespace RunArguments

/-- The scenarios of a run out of those that there are: the chosen ones with their settings
overridden, of which there is at least one, and all of which are valid. -/
def plan (arguments : RunArguments) (available : List ScenarioOptions) :
    Except CommandError (List ScenarioOptions) := do
  let chosen ← (Suite.select available arguments.scenarios).mapError .unknownScenario
  let scenarios := chosen.map arguments.overrides.apply
  if scenarios.isEmpty then throw .nothingToRun
  (scenarios.forM ScenarioOptions.validate).mapError .trial
  return scenarios

end RunArguments

/-- The scenarios of a run, once they are known to be valid and a cluster is there. -/
def run (arguments : RunArguments) :
    ShellProgram (Except CommandError (List ScenarioOptions)) := do
  match (← Suite.available arguments.config).bind arguments.plan with
  | .error e => return .error e
  | .ok scenarios =>
    match ← connect arguments.kubeconfig with
    | .error e => return .error (.trial e)
    | .ok () => return .ok scenarios

def Command.execute : Command → ShellProgram (Except CommandError Unit)
  | .list config => Cli.list config
  | .run arguments => do return (← Cli.run arguments).map fun _ => ()

end Cli

end BuildTrial
