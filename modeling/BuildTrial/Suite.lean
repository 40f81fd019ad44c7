import BuildTrial.Scenario.Catalog
import BuildTrial.Text.Cut

/-!
# Suites

A suite is a list of scenarios with distinct names. What is run of it is chosen by name, and the
settings of one invocation override those of every chosen scenario.
-/

namespace BuildTrial

structure Suite where
  scenarios : List ScenarioOptions
deriving DecidableEq

namespace Suite

/-- Check scenarios after those whose names were `seen`. -/
def validateAfter (seen : List String) : List ScenarioOptions → Except Error Unit
  | [] => .ok ()
  | scenario :: rest => do
    scenario.validate
    if scenario.name ∈ seen then
      .error (.invalid "scenarios" s!"duplicate scenario name {scenario.name}")
    else validateAfter (scenario.name :: seen) rest

/-- Every scenario is valid and no name occurs twice. -/
def validate (s : Suite) : Except Error Unit := validateAfter [] s.scenarios

/-- The suite itself, if it is valid. -/
def checked (s : Suite) : Except Error Suite := s.validate.map fun _ => s

end Suite

/-- Settings that override those of every selected scenario. -/
structure Overrides where
  /-- The pool to run in. -/
  pool : Option String := none
  builder : Option BuilderType := none
  /-- Leave everything in place. -/
  skipCleanup : Bool := false
deriving DecidableEq, Repr

namespace Overrides

/-- Move a scenario to another pool, together with the Dockerfile for its own pool. -/
def moveTo (pool : String) (o : ScenarioOptions) : ScenarioOptions :=
  match o.dockerfiles[o.poolName]? with
  | some dockerfile =>
    { o with
      poolName := pool
      dockerfiles := (o.dockerfiles.erase o.poolName).insert pool dockerfile }
  | none => { o with poolName := pool }

def apply (overrides : Overrides) (o : ScenarioOptions) : ScenarioOptions :=
  let o := match overrides.pool with
    | some pool => moveTo pool o
    | none => o
  let o := match overrides.builder with
    | some builderType => { o with builderType }
    | none => o
  if overrides.skipCleanup then { o with skipCleanup := true } else o

end Overrides

/-- A scenario was asked for that is not among those that there are. -/
structure UnknownScenario where
  name : String
  available : List String
deriving DecidableEq, Repr

def UnknownScenario.message (e : UnknownScenario) : String :=
  s!"unknown scenario {e.name} (available: " ++ ", ".intercalate e.available ++ ")"

namespace Suite

/-- The first scenario with the name. -/
def find (available : List ScenarioOptions) (name : String) :
    Except UnknownScenario ScenarioOptions :=
  match available.find? (·.name = name) with
  | some scenario => .ok scenario
  | none => .error ⟨name, available.map (·.name)⟩

/-- The scenarios with the given names, in that order; all of them if no name is given. -/
def select (available : List ScenarioOptions) (names : List String) :
    Except UnknownScenario (List ScenarioOptions) :=
  if names.isEmpty then .ok available else names.mapM (find available)

end Suite

end BuildTrial
