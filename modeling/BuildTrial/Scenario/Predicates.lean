import BuildTrial.Text.Cut
import BuildTrial.Wait

/-!
# What the phases of a scenario wait for

Each predicate judges a single snapshot.
-/

namespace BuildTrial.Predicates

/-- The configuration that every configuration of a worker includes. -/
def baseWorkerConfig : String := "00-worker"

/-- The pool has a rendered configuration, named after itself, that includes the one of workers. -/
def renderedConfig (poolName : String) (pool : Pool) : Verdict :=
  match pool.rendered with
  | some rendered =>
    if Text.startsWith rendered.name s!"rendered-{poolName}-" &&
        rendered.sources.contains baseWorkerConfig then .satisfied
    else .notYet
  | none => .notYet

/-- The build has begun; one that is over already counts as begun, whatever became of it. -/
def buildStarted (pool : Pool) : Verdict :=
  match pool.state with
  | .idle => .notYet
  | .building | .succeeded | .failed => .satisfied

/-- The build has published an image. A pool that was seen to build and is idle again has lost the
build. -/
def buildCompleted (pool : Pool) : Verdict :=
  match pool.state with
  | .succeeded => if pool.image.isSome then .satisfied else .notYet
  | .building => .notYet
  | .failed => .unrecoverable s!"build for pool {pool.name} failed"
  | .idle => .unrecoverable s!"build state for pool {pool.name} regressed from Building to Idle"

/-- The registry has assigned a reference to the repository. -/
def imageRepositoryResolved (repository : ImageRepository) : Verdict :=
  if repository.pullspec?.isSome then .satisfied else .notYet

/-- The node has booted the image; a degraded node will not. -/
def nodeImage (image : String) (node : Node) : Verdict :=
  if node.image = some image then .satisfied
  else if node.isDegraded then
    .unrecoverable s!"node {node.name} is degraded while rolling out {image}"
  else .notYet

end BuildTrial.Predicates
