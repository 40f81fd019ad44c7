import BuildTrial.Cleanup.Registry

/-!
# Teardown

A teardown pass runs every action that was registered when it began, newest first, so that whatever
depends on something else is released before it. Failures are recorded and stop nothing. With
`skip`, the pass runs nothing and only reports what is left behind.
-/

namespace BuildTrial

/-- What happened in a teardown pass, each list in the order of the pass. -/
structure CleanupReport where
  /-- Actions that this pass ran and that succeeded. -/
  completed : List String := []
  /-- Actions that had been run before their turn came. -/
  alreadyRan : List String := []
  /-- Actions that this pass ran and that failed. -/
  failed : List (String × Error) := []
  /-- Actions that were left alone. -/
  skipped : List String := []
deriving DecidableEq, Repr

namespace CleanupReport

def isClean (r : CleanupReport) : Bool := r.failed.isEmpty

/-- The counts in one line. -/
def summary (r : CleanupReport) : String :=
  s!"{r.completed.length + r.alreadyRan.length} cleaned, {r.failed.length} failed, " ++
    s!"{r.skipped.length} skipped"

/-- All failures as one error, if there were any. -/
def toError? (r : CleanupReport) : Option Error :=
  if r.isClean then none else some (.cleanupFailed (r.failed.map (·.1)))

def record (r : CleanupReport) (name : String) : RunResult → CleanupReport
  | none => { r with alreadyRan := r.alreadyRan ++ [name] }
  | some (.ok ()) => { r with completed := r.completed ++ [name] }
  | some (.error e) => { r with failed := r.failed ++ [(name, e)] }

/-- Record an action that the pass only looked at. -/
def recordIdle (r : CleanupReport) (status : ActionStatus) : CleanupReport :=
  if status.hasRun then { r with alreadyRan := r.alreadyRan ++ [status.name] }
  else { r with skipped := r.skipped ++ [status.name] }

end CleanupReport

namespace Registry

variable {I : Interface}

/-- Run an action to its end, unless its body was claimed before. -/
def run (r : Registry I) (h : Handle) : Program I (RunResult × Registry I) :=
  match r.claim? h with
  | none => .done (none, r)
  | some claim =>
    (ActionRun.exec ⟨claim.rest, claim.name, claim.body, []⟩).bind fun (result, registry) =>
      .done (some result, registry)

/-- Run the first `count` actions, last one first. -/
def runDown (r : Registry I) (report : CleanupReport) :
    (count : Nat) → Program I (CleanupReport × Registry I)
  | 0 => .done (report, r)
  | h + 1 =>
    match r.status? h with
    | none => runDown r report h
    | some status =>
      (r.run h).bind fun (result, r) => runDown r (report.record status.name result) h

def idleReport (r : Registry I) : CleanupReport :=
  r.actions.reverse.foldl (fun report action => report.recordIdle action.status) {}

/-- A teardown pass over the actions that are registered now. -/
def runAll (r : Registry I) (skip : Bool) : Program I (CleanupReport × Registry I) :=
  if skip then .done (r.idleReport, r) else r.runDown {} r.size

end Registry

end BuildTrial
