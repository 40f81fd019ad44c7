import BuildTrial.Proofs.Mutate.Settled
import BuildTrial.Proofs.Program.Drift
import BuildTrial.Proofs.Retry.Pause

/-!
# Updates that tolerate conflicts are steady

An update with the limits of `RetryConfig.forConflicts` pauses at most four times. Each pause lasts a
few milliseconds whatever the random factor is, and leaves the schedule as it was, so the factors make
no difference to what is read and updated.
-/

namespace BuildTrial

open Program

variable {I : Interface} {σ : Type} {answer : (q : I.Query) → σ → I.Reply q × σ}

theorem runIn_pause {b after : Backoff} {span : Duration} (w : World σ)
    (h : b.next (w.jitter w.jitters) = .returned (span, after)) :
    b.pause.runIn answer w = (.returned after, { w with jitters := w.jitters + 1 }.slept span) := by
  have hdrawn : World.reply answer .jitter w =
      (w.jitter w.jitters, { w with jitters := w.jitters + 1 }) := rfl
  rw [Backoff.pause_eq, Program.runIn_ask, hdrawn, h]
  rw [Program.runIn_ask, World.reply_sleep]
  rfl

theorem steady_pause : Steady answer 1 (Backoff.pause (.ofConfig .forConflicts)) := by
  intro n w w' hlimit hdrift
  obtain ⟨span, hnext, hspan⟩ := Backoff.next_forConflicts (w.jitter w.jitters)
  obtain ⟨span', hnext', hspan'⟩ := Backoff.next_forConflicts (w'.jitter w'.jitters)
  unfold EndAlike
  rw [runIn_pause w hnext, runIn_pause w' hnext']
  refine ⟨rfl, Drift.paused ?_ (by omega) hspan hspan'⟩
  exact ⟨hdrift.plane, hdrift.pick, hdrift.picks, hdrift.clock, hdrift.late, hdrift.late'⟩

/-- The schedule of a pause between conflicting updates stays as it is. -/
theorem after_of_runs_pause {T : Type} {t : StoreTrace T} {after : Backoff}
    (h : (Backoff.pause (.ofConfig .forConflicts)).Runs t (.returned after)) :
    after = .ofConfig .forConflicts := by
  obtain ⟨factor, ⟨span, _, hnext, -, ho⟩ | ⟨_, -, -, ho⟩⟩ := Backoff.runs_pause h
  · obtain ⟨span', hnext', -⟩ := Backoff.next_forConflicts factor
    rw [hnext'] at hnext
    cases hnext
    exact Outcome.returned.inj ho
  · cases ho

namespace Mutate

variable {T : Type} [Resource T] {answer : (call : StoreCall T) → σ → Attempted call.Answer × σ}

/-- An attempt that is not the last is one of the first four. -/
theorem succ_attempt_le {attempt : Nat}
    (h : ¬RetryConfig.forConflicts.isExhausted attempt = true) : attempt + 1 ≤ 5 := by
  rw [Bool.not_eq_true, RetryConfig.isExhausted_eq_false_iff] at h
  exact h.resolve_left (by decide)

/-- From the cycle with a given number on there are as many pauses as attempts after that one. -/
theorem steady_cycleFrom (name : String) (mutation : T → Outcome T) :
    ∀ left attempt, attempt ≤ 5 →
      Steady (I := storeInterface T) answer (5 - attempt)
        (cycleFrom name .forConflicts mutation left attempt (.ofConfig .forConflicts)) := by
  -- `attempt ≤ 5` carries the induction on what is left to count: the fifth attempt is the last one
  intro left
  induction left with
  | zero =>
    intro attempt _
    exact (inStep_panic countOverflow).mono (Nat.zero_le _)
  | succ left ih =>
    intro attempt hattempt
    rw [cycleFrom_succ]
    refine inStep_call fun reply => inStep_ofOutcome_bind fun read => ?_
    cases read with
    | error e => exact (inStep_done _).mono (Nat.zero_le _)
    | ok current =>
      refine inStep_ofOutcome_bind fun desired => ?_
      refine inStep_call fun reply => inStep_ofOutcome_bind fun committed => ?_
      cases committed with
      | ok v => exact (inStep_done _).mono (Nat.zero_le _)
      | error e =>
        unfold afterUpdate
        dsimp only
        split
        · exact (inStep_done _).mono (Nat.zero_le _)
        split
        · exact (inStep_done _).mono (Nat.zero_le _)
        · rename_i hmore
          have hfour := succ_attempt_le hmore
          have hsum : 5 - attempt = 1 + (5 - (attempt + 1)) := by omega
          rw [hsum]
          -- the pause leaves the schedule as it is, so the next cycle is of the same kind
          refine steady_pause.bind_of_runs fun t after hruns => ?_
          rw [after_of_runs_pause hruns]
          exact ih (attempt + 1) hfour

end Mutate

/-- An update that tolerates conflicts is steady, with four pauses. -/
theorem steady_mutate {T : Type} [Resource T]
    {answer : (call : StoreCall T) → σ → Attempted call.Answer × σ} (name : String)
    (mutation : T → Outcome T) :
    Steady (I := storeInterface T) answer 4 (mutate name .forConflicts mutation) :=
  Mutate.steady_cycleFrom name mutation countLimit 1 (by decide)

end BuildTrial
