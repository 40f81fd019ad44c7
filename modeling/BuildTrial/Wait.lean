import BuildTrial.Retry
import BuildTrial.Store

/-!
# Waiting for a state

A wait reads an object again and again until a predicate is satisfied with the snapshot. The
predicate can also find that its goal is out of reach, which ends the wait at once. The first read
is immediate, and no poll is started that would end after the budget.
-/

namespace BuildTrial

/-- What a predicate makes of one snapshot. -/
inductive Verdict where
  /-- Not there yet. -/
  | notYet
  | satisfied
  /-- It can never get there. -/
  | unrecoverable (reason : String)
deriving DecidableEq, Repr

structure WaitConfig where
  /-- What is waited for. -/
  description : String
  /-- How long to poll at most. -/
  timeout : Duration
  /-- The sleep between two polls. -/
  pollInterval : Duration := .ofSecs 2
deriving DecidableEq, Repr

namespace WaitConfig

/-- The same wait, but over by `deadline`. -/
def boundedBy (c : WaitConfig) (deadline now : Instant) : WaitConfig :=
  { c with timeout := min c.timeout (deadline.since now) }

@[simp] theorem description_boundedBy (c : WaitConfig) (deadline now : Instant) :
    (c.boundedBy deadline now).description = c.description := rfl

@[simp] theorem pollInterval_boundedBy (c : WaitConfig) (deadline now : Instant) :
    (c.boundedBy deadline now).pollInterval = c.pollInterval := rfl

@[simp] theorem timeout_boundedBy (c : WaitConfig) (deadline now : Instant) :
    (c.boundedBy deadline now).timeout = min c.timeout (deadline.since now) := rfl

end WaitConfig

namespace Wait

variable {T : Type}

/-- The polls of a wait that started at `start`, of which `left` can still be counted. -/
def pollFrom (name : String) (config : WaitConfig) (predicate : T → Verdict) (start : Instant) :
    (left : Nat) → StoreProgram T (Except Error (Versioned T))
  | 0 => .panic countOverflow
  | left + 1 =>
    let again : StoreProgram T (Except Error (Versioned T)) :=
      Program.now.bind fun now =>
        let waited := now.since start
        -- the next poll would come after the budget, so there is none; a sum that is cut off at the
        -- longest duration would come to the same (`Wait.timesOut_iff`)
        if config.timeout < waited + config.pollInterval then
          .done (.error (.timeout config.description waited))
        else (Program.sleep config.pollInterval).bind fun _ =>
          pollFrom name config predicate start left
    (StoreCall.get name).run.bind fun
      | .ok snapshot =>
        match predicate snapshot.object with
        | .satisfied => .done (.ok snapshot)
        | .unrecoverable reason => .done (.error (.unrecoverable config.description reason))
        | .notYet => again
      | .error e => if e.isRetryable then again else .done (.error e)

end Wait

/-- Poll the object with the given name until the predicate is satisfied, and answer with the
snapshot that satisfied it. An error that a repetition may cure counts as one more poll. -/
def waitFor {T : Type} (name : String) (config : WaitConfig) (predicate : T → Verdict) :
    StoreProgram T (Except Error (Versioned T)) :=
  Program.now.bind fun start => Wait.pollFrom name config predicate start countLimit

end BuildTrial
