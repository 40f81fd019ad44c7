import BuildTrial.Proofs.Mutate.Steady
import BuildTrial.Proofs.Program.Cost

/-!
# What updates that tolerate conflicts cost

An update with the limits of `RetryConfig.forConflicts` goes through at most five cycles of two calls,
with a pause between two cycles. It looks at no deadline.
-/

namespace BuildTrial

open Program

variable {I : Interface} {σ : Type} {answer : (q : I.Query) → σ → I.Reply q × σ} {deadline : Nat}

theorem frugal_pause : Frugal answer deadline 1 0 (Backoff.pause (.ofConfig .forConflicts)) := by
  intro w
  obtain ⟨span, hnext, hspan⟩ := Backoff.next_forConflicts (w.jitter w.jitters)
  rw [Backoff.pause_eq]
  refine .jitter ?_
  rw [hnext]
  exact .pause hspan (frugal_done _ _)

namespace Mutate

variable {T : Type} [Resource T] {answer : (call : StoreCall T) → σ → Attempted call.Answer × σ}

/-- Each cycle is two calls, and each but the fifth may end in a pause. -/
theorem frugal_cycleFrom (name : String) (mutation : T → Outcome T) :
    ∀ left attempt, attempt ≤ 5 →
      Frugal (I := storeInterface T) answer deadline (5 - attempt) (2 * (6 - attempt))
        (cycleFrom name .forConflicts mutation left attempt (.ofConfig .forConflicts)) := by
  -- `attempt ≤ 5` carries the induction on what is left to count: the fifth attempt is the last one
  intro left
  induction left with
  | zero =>
    intro attempt _
    exact (frugal_panic countOverflow).mono (Nat.zero_le _) (Nat.zero_le _)
  | succ left ih =>
    intro attempt hattempt
    have hcalls : 2 * (6 - attempt) = 2 * (5 - attempt) + 1 + 1 := by omega
    rw [cycleFrom_succ, hcalls]
    refine frugal_call fun reply => frugal_ofOutcome_bind fun read => ?_
    cases read with
    | error e => exact (frugal_done _).mono (Nat.zero_le _) (Nat.zero_le _)
    | ok current =>
      refine frugal_ofOutcome_bind fun desired => ?_
      refine frugal_call fun reply => frugal_ofOutcome_bind fun committed => ?_
      cases committed with
      | ok v => exact (frugal_done _).mono (Nat.zero_le _) (Nat.zero_le _)
      | error e =>
        unfold afterUpdate
        dsimp only
        split
        · exact (frugal_done _).mono (Nat.zero_le _) (Nat.zero_le _)
        split
        · exact (frugal_done _).mono (Nat.zero_le _) (Nat.zero_le _)
        · rename_i hmore
          have hfour := succ_attempt_le hmore
          have hcalls : 2 * (5 - attempt) = 0 + 2 * (6 - (attempt + 1)) := by omega
          have hpauses : 5 - attempt = 1 + (5 - (attempt + 1)) := by omega
          rw [hcalls, hpauses]
          -- the pause leaves the schedule as it is, so the next cycle is of the same kind
          refine frugal_pause.bind_of_runs fun t after hruns => ?_
          rw [after_of_runs_pause hruns]
          exact ih (attempt + 1) hfour

end Mutate

/-- An update that tolerates conflicts is at most ten calls and four pauses. -/
theorem frugal_mutate {T : Type} [Resource T]
    {answer : (call : StoreCall T) → σ → Attempted call.Answer × σ} (name : String)
    (mutation : T → Outcome T) :
    Frugal (I := storeInterface T) answer deadline 4 10 (mutate name .forConflicts mutation) :=
  Mutate.frugal_cycleFrom name mutation countLimit 1 (by decide)

end BuildTrial
