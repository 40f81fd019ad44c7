import BuildTrial.BuildConfiguration

/-!
# The options of a scenario

What a scenario is asked to do: which builder, which pool, which Dockerfiles, whether the image is
rolled out to a node, and how long each wait may take. `ScenarioOptions.validate` is the gate before
every run; it reports the first field in a fixed order that makes no sense.
-/

namespace BuildTrial

/-- Budgets in seconds. -/
structure Timeouts where
  /-- For the image repository to get its reference. -/
  imageRepository : Nat := 120
  /-- For the pool to get its first rendered configuration. -/
  renderedConfig : Nat := 300
  /-- For the build to start once the pool is opted in. -/
  buildStart : Nat := 300
  /-- For the build to finish once it has started. -/
  buildCompletion : Nat := 1200
  /-- For the node to boot the image. -/
  nodeImage : Nat := 1200
  /-- For the whole scenario; no wait goes beyond what is left of it. -/
  scenario : Nat := 3600
  /-- The sleep between two polls. -/
  pollInterval : Nat := 2
deriving DecidableEq, Repr

namespace Timeouts

/-- The budgets with the names of their fields, in the order in which they are checked. -/
def budgets (t : Timeouts) : List (String × Nat) :=
  [("timeouts.imageRepositorySecs", t.imageRepository),
    ("timeouts.renderedConfigSecs", t.renderedConfig),
    ("timeouts.buildStartSecs", t.buildStart),
    ("timeouts.buildCompletionSecs", t.buildCompletion),
    ("timeouts.nodeImageSecs", t.nodeImage),
    ("timeouts.scenarioSecs", t.scenario),
    ("timeouts.pollIntervalSecs", t.pollInterval)]

/-- The greatest budget: one week. -/
def maxBudget : Nat := 7 * 24 * 60 * 60

end Timeouts

/-- Rolling the image out to a node and checking it there. -/
structure RolloutOptions where
  /-- What is run on the node once it has booted the image. -/
  verifyCommand : List String
  /-- The role of the nodes to choose from when none is named. -/
  nodeRole : String := "worker"
  /-- Delete the node and its machine in teardown, since it runs a test image by then. -/
  deleteNode : Bool := true
deriving DecidableEq, Repr

def defaultPoolName : String := "layered"

structure ScenarioOptions where
  name : String
  builderType : BuilderType
  /-- The pool to create and to opt in. -/
  poolName : String := defaultPoolName
  /-- A Dockerfile for each pool. -/
  dockerfiles : StringMap String := ∅
  /-- Nodes to roll out to; any node of the role if there are none. -/
  targetNodes : List String := []
  /-- Leave everything in place. -/
  skipCleanup : Bool := false
  rollout : Option RolloutOptions := none
  timeouts : Timeouts := {}
deriving DecidableEq

namespace ScenarioOptions

def withPool (o : ScenarioOptions) (poolName : String) : ScenarioOptions := { o with poolName }

def withDockerfile (o : ScenarioOptions) (pool content : String) : ScenarioOptions :=
  { o with dockerfiles := o.dockerfiles.insert pool content }

def withRollout (o : ScenarioOptions) (rollout : RolloutOptions) : ScenarioOptions :=
  { o with rollout := some rollout }

def withTargetNodes (o : ScenarioOptions) (targetNodes : List String) : ScenarioOptions :=
  { o with targetNodes }

def withSkipCleanup (o : ScenarioOptions) (skipCleanup : Bool) : ScenarioOptions :=
  { o with skipCleanup }

def withTimeouts (o : ScenarioOptions) (timeouts : Timeouts) : ScenarioOptions :=
  { o with timeouts }

end ScenarioOptions

/-- Fail with an error about a field unless a condition holds. -/
def requireField (condition : Bool) (field message : String) : Except Error Unit :=
  if condition then .ok () else .error (.invalid field message)

/-- Refuse the first budget that is over the limit. -/
def Timeouts.checkBudgets : List (String × Nat) → Except Error Unit
  | [] => .ok ()
  | (field, secs) :: rest =>
    if maxBudget < secs then
      .error (.invalid field s!"{secs}s exceeds the {maxBudget}s limit")
    else checkBudgets rest

/-- Refuse options that cannot make a meaningful run. -/
def ScenarioOptions.validate (o : ScenarioOptions) : Except Error Unit := do
  requireField (!Text.isBlankText o.name) "name" "scenario name is empty"
  requireField (!Text.isBlankText o.poolName) "poolName" "pool name is empty"
  requireField (o.timeouts.pollInterval != 0) "timeouts.pollIntervalSecs"
    "poll interval must be at least one second"
  Timeouts.checkBudgets o.timeouts.budgets
  match o.rollout with
  | some rollout =>
    requireField (!rollout.verifyCommand.isEmpty) "rollout.verifyCommand"
      "rollout needs a verification command"
  | none => .ok ()

end BuildTrial
