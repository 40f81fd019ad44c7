import BuildTrial.Scenario.Options
import BuildTrial.Scenario.Predicates
import BuildTrial.Scenario.Progress

/-!
# The phases of a scenario

First the options are checked. Then everything a build needs is created, the pool is opted in, and
the build is watched until it has published an image; the image may then be rolled out to one node.
Each effect is followed by the registration of its undoing before anything else can fail. The one
exception is the deletion of the rollout node, which is registered as soon as the node is chosen.
-/

namespace BuildTrial

/-- The options of a running scenario and the instant at which its budget ends. -/
structure ScenarioContext where
  options : ScenarioOptions
  deadline : Instant

def imageRepositoryName : String := "os-image"

/-- The copy of the pull secret of the cluster that the build uses. -/
def pullSecretCloneName : String := "global-pull-secret-copy"

/-- What the name of the push secret of the builder starts with. -/
def pushSecretStart : String := "builder-dockercfg-"

namespace ScenarioContext

/-- Wait for an object, but not beyond the deadline of the scenario. -/
def waitOn (ctx : ScenarioContext) (kind : Kind) (name description : String) (budget : Nat)
    (predicate : kind.Model → Verdict) : Phased (Versioned kind.Model) := do
  let now ← Phased.now
  let config : WaitConfig :=
    { description, timeout := .ofSecs budget
      pollInterval := .ofSecs ctx.options.timeouts.pollInterval }
  Phased.onStore kind (waitFor name (config.boundedBy ctx.deadline now) predicate)

end ScenarioContext

namespace Phases

/-- Create a resource and register its deletion. -/
def create (kind : Kind) (object : kind.Model) : Phased Unit := do
  let _ ← Phased.call (.store kind (.create object))
  Phased.register (.delete kind (Resource.name object))

def label (kind : Kind) [Labelled kind.Model] (name key : String) : Phased Unit := do
  let _ ← Phased.onStore kind
    (mutate name .forConflicts fun object => .returned (addLabel key object))

/-- The name of the first secret that the builder may push with. -/
def findPushSecret : Phased String := do
  let secrets ← Phased.call (.store .secret .list)
  match secrets.find? fun secret => Text.startsWith secret.object.name pushSecretStart with
  | some secret => return secret.object.name
  | none => throw (.notFound Kind.secret.text (pushSecretStart ++ "*"))

/-- Create everything that the build depends on. -/
def provision (ctx : ScenarioContext) : Phased Unit := do
  let options := ctx.options
  let finalPushSecret ← findPushSecret
  create .imageRepository { name := imageRepositoryName }
  let repository ← ctx.waitOn .imageRepository imageRepositoryName "image repository pullspec"
    options.timeouts.imageRepository Predicates.imageRepositoryResolved
  let finalPullspec ← match repository.object.pullspec? with
    | some pullspec => pure pullspec
    | none => throw (.internal imageRepositoryName "resolved repository has no pullspec")
  let pullSecret ← Phased.call .pullSecret
  create .secret (pullSecret.cloneAs pullSecretCloneName)
  let configuration : BuildConfiguration :=
    { builderType := options.builderType, basePullSecret := pullSecretCloneName
      finalPushSecret, finalPullspec }
  create .configMap configuration.toConfigMap
  create .pool { name := options.poolName }
  let _ ← ctx.waitOn .pool options.poolName "pool rendered config" options.timeouts.renderedConfig
    (Predicates.renderedConfig options.poolName)
  create .configMap (Dockerfiles.toConfigMap options.dockerfiles)

def optIn (ctx : ScenarioContext) : Phased Unit := do
  label .pool ctx.options.poolName layeringLabel
  Phased.register (.unlabelPool ctx.options.poolName layeringLabel)

def buildStart (ctx : ScenarioContext) : Phased Unit := do
  let _ ← ctx.waitOn .pool ctx.options.poolName "build start" ctx.options.timeouts.buildStart
    Predicates.buildStarted

/-- Wait for the build and answer with the image that it published. -/
def buildCompletion (ctx : ScenarioContext) : Phased String := do
  let built ← ctx.waitOn .pool ctx.options.poolName "build completion"
    ctx.options.timeouts.buildCompletion Predicates.buildCompleted
  match built.object.image with
  | some image => return image
  | none => throw (.internal ctx.options.poolName "build succeeded without an image")

/-- Whether a node can take the image: it has the role, is not in the pool, and is healthy. -/
def isCandidate (role poolName : String) (node : Node) : Bool :=
  node.hasRole role && !node.hasRole poolName && !node.isDegraded

/-- The first node asked for, or any candidate. -/
def selectNode (ctx : ScenarioContext) (rollout : RolloutOptions) : Phased Node := do
  match ctx.options.targetNodes with
  | target :: _ => return (← Phased.call (.store .node (.get target))).object
  | [] =>
    let nodes ← Phased.call (.store .node .list)
    let candidates := (nodes.map (·.object)).filter
      (isCandidate rollout.nodeRole ctx.options.poolName)
    match ← ExceptT.lift (Program.choose candidates) with
    | some node => return node
    | none => throw (.notFound Kind.node.text s!"any {rollout.nodeRole} node")

/-- Move a node into the pool, wait until it has booted the image, and run the verification command
on it. -/
def rollout (ctx : ScenarioContext) (image : String) (rollout : RolloutOptions) :
    Phased RolloutOutcome := do
  let node ← selectNode ctx rollout
  -- registered before the label, so the teardown takes the label off the node before it deletes it
  if rollout.deleteNode then Phased.register (.deleteNode node.name node.machine)
  let roleLabel := nodeRoleLabel ctx.options.poolName
  label .node node.name roleLabel
  Phased.register (.unlabelNode node.name roleLabel)
  let _ ← ctx.waitOn .node node.name "node boots built image" ctx.options.timeouts.nodeImage
    (Predicates.nodeImage image)
  let output ← Phased.call (.exec node.name rollout.verifyCommand)
  return { node := node.name, output }

/-- All phases up to the teardown. -/
def all (options : ScenarioOptions) : Phased PhasesOutcome := do
  liftExcept options.validate
  let started ← Phased.now
  let deadline ← match started.after? (.ofSecs options.timeouts.scenario) with
    | some deadline => pure deadline
    | none => throw (.invalid "timeouts.scenarioSecs" "scenario budget is too large")
  let ctx : ScenarioContext := { options, deadline }
  Phased.enter .provision
  provision ctx
  Phased.enter .optIn
  optIn ctx
  Phased.enter .buildStart
  buildStart ctx
  Phased.enter .buildCompletion
  let image ← buildCompletion ctx
  match options.rollout with
  | some rolloutOptions =>
    Phased.enter .rollout
    let outcome ← rollout ctx image rolloutOptions
    return { image, rollout := some outcome }
  | none => return { image, rollout := none }
where
  liftExcept (result : Except Error Unit) : Phased Unit := .mk (.done result)

end Phases

end BuildTrial
