import BuildTrial.Suite
import BuildTrial.Text.Case

/-!
# Settings of an invocation

What can be set on a command line, and what is known of the settings so far. A setting is made once;
one that the command line does not make may come from a variable of the environment.
-/

namespace BuildTrial.Cli

/-- How log lines are written. -/
inductive LogFormat where
  | text
  | json
deriving DecidableEq, Repr

def LogFormat.ofText? (s : String) : Option LogFormat :=
  if s = "text" then some .text else if s = "json" then some .json else none

/-- Why a command line is not carried out. -/
inductive Refusal where
  /-- It asks for help. -/
  | help
  /-- It asks for the version. -/
  | version
  | empty
  | missingCommand
  | unknownCommand
  | unknownArgument
  | repeatedSetting
  /-- A value for a setting that takes none. -/
  | unwantedValue
  /-- No value, or one that the setting cannot have. -/
  | invalidValue
  | unknownBuilder
deriving DecidableEq, Repr

inductive Setting where
  | logFormat
  | config
  | kubeconfig
  | pool
  | builder
  | skipCleanup
  | help
  | version
deriving DecidableEq, Repr

namespace Setting

/-- The name after two dashes. -/
def name : Setting → String
  | .logFormat => "log-format"
  | .config => "config"
  | .kubeconfig => "kubeconfig"
  | .pool => "pool"
  | .builder => "builder"
  | .skipCleanup => "skip-cleanup"
  | .help => "help"
  | .version => "version"

/-- The letter after one dash. -/
def letter? : Setting → Option Char
  | .config => some 'c'
  | .help => some 'h'
  | .version => some 'V'
  | _ => none

def takesValue : Setting → Bool
  | .skipCleanup | .help | .version => false
  | _ => true

/-- The variable that makes the setting where the command line does not. -/
def environmentName? : Setting → Option String
  | .kubeconfig => some "LAYERCHECK_KUBECONFIG"
  | .pool => some "LAYERCHECK_POOL"
  | .skipCleanup => some "LAYERCHECK_SKIP_CLEANUP"
  | _ => none

end Setting

/-- What is known so far, and the names of scenarios. -/
structure Settings where
  logFormat : Option LogFormat := none
  config : Option String := none
  kubeconfig : Option String := none
  pool : Option String := none
  builder : Option BuilderType := none
  skipCleanup : Option Bool := none
  scenarios : List String := []
deriving DecidableEq, Repr

/-- Whether a text switches something on: any but an empty one and a few that mean no. -/
def isOn (s : String) : Bool :=
  !(s.isEmpty || ["n", "no", "f", "false", "off", "0"].contains (Text.lower s))

/-- The name of a file, which is not empty. -/
def fileName (s : String) : Except Refusal String :=
  if s.isEmpty then .error .invalidValue else .ok s

namespace Settings

def has (s : Settings) : Setting → Bool
  | .logFormat => s.logFormat.isSome
  | .config => s.config.isSome
  | .kubeconfig => s.kubeconfig.isSome
  | .pool => s.pool.isSome
  | .builder => s.builder.isSome
  | .skipCleanup => s.skipCleanup.isSome
  | .help | .version => false

/-- Make a setting, over one that may have been made before. -/
def put (s : Settings) (setting : Setting) (value : String) : Except Refusal Settings :=
  match setting with
  | .logFormat =>
    match LogFormat.ofText? value with
    | some format => .ok { s with logFormat := some format }
    | none => .error .invalidValue
  | .config => (fileName value).map fun path => { s with config := some path }
  | .kubeconfig => (fileName value).map fun path => { s with kubeconfig := some path }
  | .pool => .ok { s with pool := some value }
  | .builder =>
    match BuilderType.ofText? value with
    | some builder => .ok { s with builder := some builder }
    | none => .error .unknownBuilder
  | .skipCleanup => .ok { s with skipCleanup := some (isOn value) }
  | .help => .error .help
  | .version => .error .version

/-- Make a setting that has not been made before. -/
def add (s : Settings) (setting : Setting) (value : String) : Except Refusal Settings :=
  if s.has setting then .error .repeatedSetting else s.put setting value

/-- Make the settings that are missing and have a variable in the environment. -/
def fill (environment : String → Option String) (s : Settings) (settings : List Setting) :
    Except Refusal Settings :=
  settings.foldlM (fun s setting =>
    match setting.environmentName?.bind environment with
    | some value => if s.has setting then .ok s else s.put setting value
    | none => .ok s) s

end Settings

end BuildTrial.Cli
