import BuildTrial.Cleanup
import BuildTrial.Scenario.Outcome
import BuildTrial.Scenario.Undo

/-!
# The progress of the phases

The phases of a scenario work on the control plane and, besides, say which phase they are in and
register what has to be undone. Both are kept (`Phased.track`) whether the phases end with an
answer, an error or a panic.
-/

namespace BuildTrial

/-- What the phases of a scenario can do. -/
inductive PhaseStep where
  | call (call : PlaneCall)
  | enter (phase : Phase)
  | register (undo : Undo)

@[reducible] def phaseInterface : Interface where
  Query := PhaseStep
  Reply
    | .call call => Attempted call.Answer
    | .enter _ => Unit
    | .register _ => Unit

/-- A part of the phases of a scenario. -/
abbrev Phased (α : Type) : Type := Task phaseInterface.timed α

/-- How far the phases have come. -/
structure Progress where
  /-- The phase entered last. -/
  phase : Phase := .validate
  /-- What was registered, in order. -/
  undos : List Undo := []
deriving DecidableEq, Repr

/-- The registry of teardown actions that was built up. -/
def Progress.registry (p : Progress) : Registry planeInterface.timed :=
  p.undos.foldl (fun registry undo => registry.register undo.name (.ofProgram undo.program)) {}

namespace Phased

/-- Make one call on the control plane. -/
def call (call : PlaneCall) : Phased call.Answer := .mk (.ask (.call (.call call)) .ofOutcome)

/-- Run a program for one store as a part of the phases. -/
def onStore {α : Type} (kind : Kind) (p : StoreProgram kind.Model (Except Error α)) : Phased α :=
  .mk (p.within fun call => .ask (.call (.call (.store kind call))) .done)

def enter (phase : Phase) : Phased Unit := .mk (.ask (.call (.enter phase)) fun _ => .done (.ok ()))

def register (undo : Undo) : Phased Unit :=
  .mk (.ask (.call (.register undo)) fun _ => .done (.ok ()))

def now : Phased Instant := .lift .now

/-- Run the phases and keep their progress, however they end. -/
def track {α : Type} :
    Program phaseInterface.timed α → Progress → PlaneProgram (Outcome α × Progress)
  | .done a, progress => .done (.returned a, progress)
  | .panic payload, progress => .done (.panicked payload, progress)
  | .ask (.call (.call call)) next, progress =>
    .ask (.call call) fun reply => track (next reply) progress
  | .ask (.call (.enter phase)) next, progress => track (next ()) { progress with phase }
  | .ask (.call (.register undo)) next, progress =>
    track (next ()) { progress with undos := progress.undos ++ [undo] }
  | .ask (.sleep span) next, progress => .ask (.sleep span) fun _ => track (next ()) progress
  | .ask .now next, progress => .ask .now fun instant => track (next instant) progress
  | .ask .jitter next, progress => .ask .jitter fun factor => track (next factor) progress
  | .ask (.pick last) next, progress => .ask (.pick last) fun i => track (next i) progress

end Phased

end BuildTrial
