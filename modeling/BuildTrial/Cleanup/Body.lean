import BuildTrial.Cleanup.Descent
import BuildTrial.Program

/-!
# Bodies of teardown actions

A body is a program that may also use the registry it is registered in: it can register further
actions, look at a handle, and run a handle, its own or a running one included. Bodies are finite
along every sequence of replies, which makes `Load.Below` well founded: whatever a body leads to is
below it.
-/

namespace BuildTrial

/-- The number of an action in its registry, counted from zero in the order of registration. -/
abbrev Handle : Type := Nat

/-- What is known of an action without running it. -/
structure ActionStatus where
  name : String
  hasRun : Bool
deriving DecidableEq, Repr

/-- How a run of an action ended, if the run had not been claimed before. -/
abbrev RunResult : Type := Option (Except Error Unit)

inductive Body (I : Interface) : Type where
  | finish (result : Except Error Unit)
  | panic (payload : Panic)
  | ask (query : I.Query) (next : I.Reply query → Body I)
  /-- Register another action; `next` gets its handle. -/
  | register (name : String) (body : Body I) (next : Handle → Body I)
  /-- Look at a handle; nothing comes back if there is no such action. -/
  | inspect (handle : Handle) (next : Option ActionStatus → Body I)
  /-- Run a handle to its end. -/
  | invoke (handle : Handle) (next : RunResult → Body I)

/-- The body that does nothing but run a program. -/
def Body.ofProgram {I : Interface} : Program I (Except Error Unit) → Body I
  | .done result => .finish result
  | .panic payload => .panic payload
  | .ask query next => .ask query fun reply => ofProgram (next reply)

/-- What a registry still has to do: a body, or the rest of one that waits for the end of a run. -/
inductive Load (I : Interface) : Type where
  | body (body : Body I)
  | waiting (next : RunResult → Body I)

namespace Load

variable {I : Interface}

/-- What a load turns into is below it. -/
inductive Below : Load I → Load I → Prop where
  | answered (query : I.Query) (next : I.Reply query → Body I) (reply : I.Reply query) :
    Below (.body (next reply)) (.body (.ask query next))
  | registered (name : String) (body : Body I) (next : Handle → Body I) :
    Below (.body body) (.body (.register name body next))
  | handed (name : String) (body : Body I) (next : Handle → Body I) (handle : Handle) :
    Below (.body (next handle)) (.body (.register name body next))
  | inspected (handle : Handle) (next : Option ActionStatus → Body I)
      (status : Option ActionStatus) :
    Below (.body (next status)) (.body (.inspect handle next))
  | refused (handle : Handle) (next : RunResult → Body I) (result : RunResult) :
    Below (.body (next result)) (.body (.invoke handle next))
  | suspended (handle : Handle) (next : RunResult → Body I) :
    Below (.waiting next) (.body (.invoke handle next))
  | resumed (next : RunResult → Body I) (result : RunResult) :
    Below (.body (next result)) (.waiting next)

theorem acc_body (b : Body I) : Acc Below (.body b) := by
  induction b with
  | finish result => exact .intro _ fun _ h => nomatch h
  | panic payload => exact .intro _ fun _ h => nomatch h
  | ask query next ih =>
    refine .intro _ fun _ h => ?_
    cases h with
    | answered _ _ reply => exact ih reply
  | register name body next ihb ihn =>
    refine .intro _ fun _ h => ?_
    cases h with
    | registered => exact ihb
    | handed _ _ _ handle => exact ihn handle
  | inspect handle next ih =>
    refine .intro _ fun _ h => ?_
    cases h with
    | inspected _ _ status => exact ih status
  | invoke handle next ih =>
    refine .intro _ fun _ h => ?_
    cases h with
    | refused _ _ result => exact ih result
    | suspended =>
      -- the body waits first and goes on below that, so the invocation takes two steps down
      refine .intro _ fun _ h => ?_
      cases h with
      | resumed _ result => exact ih result

theorem wellFounded_below : WellFounded (Below (I := I)) :=
  ⟨fun
    | .body b => acc_body b
    | .waiting next => .intro _ fun _ h => by
      cases h with
      | resumed _ result => exact acc_body (next result)⟩

end Load

end BuildTrial
