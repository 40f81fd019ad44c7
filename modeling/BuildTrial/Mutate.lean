import BuildTrial.Retry
import BuildTrial.Store

/-!
# Updates that tolerate conflicts

The controller under test writes the resources that a trial writes, so every update races it. A
mutation is applied to a fresh snapshot and committed against its version; when the commit meets a
conflict, the cycle starts again from another read. Every other error ends it at once, and so does a
conflict on the last allowed attempt, as an error of its own that counts the attempts.
-/

namespace BuildTrial

namespace Mutate

variable {T : Type} [Resource T]

/-- The cycles from number `attempt` on, of which `left` can still be counted. -/
def cycleFrom (name : String) (config : RetryConfig) (mutation : T → Outcome T) :
    (left attempt : Nat) → Backoff → StoreProgram T (Except Error (Versioned T))
  | 0, _, _ => .panic countOverflow
  | left + 1, attempt, backoff =>
    (StoreCall.get name).run.bind fun
      | .error e => .done (.error e)
      | .ok current =>
        (Program.ofOutcome (mutation current.object)).bind fun desired =>
          (StoreCall.update name desired current.version).run.bind fun
            | .ok committed => .done (.ok committed)
            | .error e =>
              -- only a conflict is worth another cycle
              if !e.isConflict then .done (.error e)
              else if config.isExhausted attempt then
                .done (.error (.conflictExhausted (Resource.kindName T) name attempt))
              else backoff.pause.bind fun backoff =>
                cycleFrom name config mutation left (attempt + 1) backoff

end Mutate

/-- Apply a mutation to the object with the given name and commit it, starting again from a fresh
read after each conflict. -/
def mutate {T : Type} [Resource T] (name : String) (config : RetryConfig)
    (mutation : T → Outcome T) : StoreProgram T (Except Error (Versioned T)) :=
  Mutate.cycleFrom name config mutation countLimit 1 (.ofConfig config)

end BuildTrial
