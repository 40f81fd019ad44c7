import BuildTrial.Cleanup

/-!
# How a scenario ends

A scenario passes through its phases in order and ends as an outcome or as a failure; both carry the
report of the teardown that followed.
-/

namespace BuildTrial

/-- The stages of a scenario, in order. -/
inductive Phase where
  /-- The options are checked before anything is created. -/
  | validate
  /-- What the build needs is created. -/
  | provision
  /-- The pool gets the layering label. -/
  | optIn
  | buildStart
  | buildCompletion
  /-- The image is rolled out to a node and checked there. -/
  | rollout
  /-- Everything registered is undone. -/
  | cleanup
deriving DecidableEq, Repr

def Phase.text : Phase → String
  | .validate => "Validate"
  | .provision => "Provision"
  | .optIn => "OptIn"
  | .buildStart => "BuildStart"
  | .buildCompletion => "BuildCompletion"
  | .rollout => "Rollout"
  | .cleanup => "Cleanup"

def Phase.all : List Phase :=
  [.validate, .provision, .optIn, .buildStart, .buildCompletion, .rollout, .cleanup]

/-- What the rollout saw. -/
structure RolloutOutcome where
  node : String
  /-- What the verification command printed. -/
  output : String
deriving DecidableEq, Repr

/-- What the phases of a passing scenario bring. -/
structure PhasesOutcome where
  /-- The image that the pool published. -/
  image : String
  /-- Present if the scenario rolls the image out. -/
  rollout : Option RolloutOutcome
deriving DecidableEq, Repr

structure ScenarioOutcome extends PhasesOutcome where
  scenario : String
  cleanup : CleanupReport
deriving DecidableEq, Repr

structure ScenarioFailure where
  scenario : String
  /-- The phase of the first error. -/
  phase : Phase
  /-- The first error; what fails after it is only in the report of the teardown. -/
  source : Error
  cleanup : CleanupReport
deriving DecidableEq, Repr

def ScenarioFailure.message (f : ScenarioFailure) : String :=
  s!"scenario {f.scenario} failed during {f.phase.text} ({f.source.kind.text}): {f.source.message}"

end BuildTrial
