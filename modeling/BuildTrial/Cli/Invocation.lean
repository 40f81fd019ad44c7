import BuildTrial.Cli.Setting
import BuildTrial.Text.Cut

/-!
# Invocations

What a command line asks for. Settings come before or after the name of a command, as two dashes and
a name, or as one dash and letters; a value follows its setting or is attached to it. After two
dashes alone no argument is a setting. A value is looked into when the next setting or the name of a
scenario shows that it is complete, so of two faults an argument that is unknown comes first.
-/

namespace BuildTrial.Cli

structure RunArguments where
  /-- The scenarios to run; all if there are none. -/
  scenarios : List String := []
  /-- The file with the suite. -/
  config : Option String := none
  kubeconfig : Option String := none
  overrides : Overrides := {}
deriving DecidableEq, Repr

inductive Command where
  | run (arguments : RunArguments)
  /-- List the scenarios of the suite in a file, or the built-in ones. -/
  | list (config : Option String)
deriving DecidableEq, Repr

structure Invocation where
  logFormat : LogFormat := .text
  command : Command
deriving DecidableEq, Repr

/-- What may stand on a part of a command line. -/
structure Form where
  settings : List Setting
  /-- Whether names of scenarios may. -/
  takesScenarios : Bool := false
  /-- The commands that may be named. -/
  commands : List String := []

namespace Form

/-- Before the name of a command. -/
def main : Form :=
  { settings := [.logFormat, .help, .version], commands := ["run", "list", "help"] }

/-- After the command that runs scenarios. -/
def run : Form :=
  { settings := [.config, .kubeconfig, .pool, .builder, .skipCleanup, .logFormat, .help]
    takesScenarios := true }

/-- After the command that lists scenarios. -/
def list : Form := { settings := [.config, .logFormat, .help] }

def named? (form : Form) (name : String) : Option Setting := form.settings.find? (·.name = name)

def lettered? (form : Form) (c : Char) : Option Setting :=
  form.settings.find? (·.letter? = some c)

end Form

/-- How far a part of a command line is read. -/
structure Reading where
  settings : Settings := {}
  /-- A setting whose value is not looked into yet; without a value, it is the next argument. -/
  pending : Option (Setting × Option String) := none
  /-- Whether no argument is a setting any more. -/
  literal : Bool := false

namespace Reading

/-- Whether the next argument is the value of a setting. -/
def awaitsValue (r : Reading) : Bool := r.pending.any (·.2.isNone)

def settle (r : Reading) : Except Refusal Reading :=
  match r.pending with
  | none => .ok r
  | some (_, none) => .error .invalidValue
  | some (setting, some value) =>
    (r.settings.add setting value).map fun settings => { r with settings, pending := none }

/-- Take a setting, perhaps with a value attached. -/
def setting (setting : Setting) (attached : Option String) (r : Reading) :
    Except Refusal Reading := do
  if setting.takesValue then
    let r ← r.settle
    match attached with
    | some value => return { r with settings := ← r.settings.add setting value }
    | none => return { r with pending := some (setting, none) }
  else
    if attached.isSome then throw .unwantedValue
    let r ← r.settle
    return { r with settings := ← r.settings.add setting "true" }

/-- Take the letters after a dash. What follows the letter of a setting with a value is its value,
perhaps after an equals sign. -/
def letters (form : Form) : List Char → Reading → Except Refusal Reading
  | [], r => .ok r
  | c :: rest, r =>
    match form.lettered? c with
    | none => .error .unknownArgument
    | some setting =>
      if setting.takesValue then
        match rest with
        | [] => r.setting setting none
        | '=' :: value => r.setting setting (some (String.ofList value))
        | value => r.setting setting (some (String.ofList value))
      else (r.setting setting none).bind (letters form rest)

/-- Take what follows two dashes. -/
def longName (form : Form) (text : String) (r : Reading) : Except Refusal Reading :=
  let (name, attached) := match Text.splitFirst? '=' text with
    | some (name, value) => (name, some value)
    | none => (text, none)
  match form.named? name with
  | some setting => r.setting setting attached
  | none => .error .unknownArgument

/-- Take an argument that is no setting and no value of one. -/
def scenario (form : Form) (name : String) (r : Reading) : Except Refusal Reading := do
  if form.takesScenarios then
    let r ← r.settle
    return { r with settings := { r.settings with scenarios := r.settings.scenarios ++ [name] } }
  else if form.commands.isEmpty || (r.literal && form.commands.contains name) then
    throw .unknownArgument
  else throw .unknownCommand

/-- Take one argument. -/
def argument (form : Form) (text : String) (r : Reading) : Except Refusal Reading :=
  if r.literal then r.scenario form text
  else match text.toList with
    | ['-', '-'] => .ok { r with literal := true }
    | '-' :: '-' :: name => r.longName form (String.ofList name)
    | '-' :: c :: rest => r.letters form (c :: rest)
    | _ =>
      match r.pending with
      | some (setting, none) => .ok { r with pending := some (setting, some text) }
      | _ => r.scenario form text

/-- Take arguments up to the name of a command; also gives the name and the arguments after it. -/
def arguments (form : Form) (r : Reading) :
    List String → Except Refusal (Reading × Option (String × List String))
  | [] => .ok (r, none)
  | text :: rest =>
    if !r.literal && !r.awaitsValue && form.commands.contains text then
      .ok (r, some (text, rest))
    else (r.argument form text).bind fun r => arguments form r rest

end Reading

/-- What comes of asking for help on commands: there is help on each, but none on parts of one. -/
def helpOn : List String → Refusal
  | [] => .help
  | [name] => if Form.main.commands.contains name then .help else .unknownCommand
  | _ => .unknownCommand

/-- The settings after the name of a command, with those of the environment. -/
def commandSettings (environment : String → Option String) (form : Form) (args : List String) :
    Except Refusal Settings := do
  let (r, _) ← Reading.arguments form {} args
  (← r.settle).settings.fill environment form.settings

def Command.ofSettings (name : String) (s : Settings) : Command :=
  if name = "run" then
    .run
      { scenarios := s.scenarios, config := s.config, kubeconfig := s.kubeconfig
        overrides :=
          { pool := s.pool, builder := s.builder, skipCleanup := s.skipCleanup.getD false } }
  else .list s.config

namespace Invocation

/-- The invocation with the given arguments. What is set after the name of the command counts more
than what is set before it, and its faults come first. -/
def ofArguments (environment : String → Option String) (args : List String) :
    Except Refusal Invocation := do
  let (r, command) ← Reading.arguments Form.main {} args
  match command with
  | none =>
    let r ← r.settle
    throw (if r.settings.logFormat.isSome then .missingCommand else .empty)
  | some ("help", topics) => throw (helpOn topics)
  | some (name, rest) =>
    let form := if name = "run" then Form.run else Form.list
    -- only now is the value of a setting before the command looked into
    let settings ← commandSettings environment form rest
    let r ← r.settle
    return {
      logFormat := (settings.logFormat.or r.settings.logFormat).getD .text
      command := .ofSettings name settings }

end Invocation

end BuildTrial.Cli
