import BuildTrial.Proofs.Program.Cost
import BuildTrial.Proofs.Wait.Steady

/-!
# What waits cost

A wait that is cut off at a deadline never ends after it, unless it began after it, and then it is one
poll that takes no time. As its polls are at least a second apart, it makes one call and at most one
more for each second that it takes.
-/

namespace BuildTrial

open Program

namespace Wait

variable {T σ : Type} {answer : (call : StoreCall T) → σ → Attempted call.Answer × σ}
  {name : String} {predicate : T → Verdict} {config : WaitConfig} {interval deadline t : Nat}

/-- A budget that is over by the deadline leaves no room for a sleep beyond it. -/
theorem spends_pollFrom {w : World σ} (hinterval : config.pollInterval = .ofSecs interval)
    (hpos : 0 < interval)
    (hbudget : config.timeout.nanos ≤ (deadline - t) * Duration.nanosPerMilli) :
    ∀ left, t ≤ w.clock → Spends (I := storeInterface T) answer deadline 0 1
      (pollFrom name config predicate (.ofMillis t) left) w := by
  intro left
  induction left generalizing w with
  | zero => exact fun _ => (frugal_panic countOverflow).mono (Nat.le_refl 0) (Nat.zero_le 1) w
  | succ left ih =>
    have hagain : ∀ {w : World σ}, t ≤ w.clock → Spends (I := storeInterface T) answer deadline 0 0
        (again name config predicate (.ofMillis t) left) w := by
      intro w ht
      refine .now ?_
      split
      · exact frugal_done _ w
      · rename_i hintime
        have hspan := ceilMillis_ofSecs interval
        rw [← hinterval] at hspan
        -- there is a sleep only if the poll after it is still in time
        refine .sleep hspan (by omega) ?_ (ih ?_)
        · rw [Duration.lt_def, hinterval] at hintime
          simp only [Duration.nanos_add, World.now, Instant.since, Instant.ofMillis,
            Duration.ofMillis, Duration.ofSecs, Duration.nanosPerMilli, Duration.nanosPerSec]
            at hintime hbudget
          omega
        · rw [World.clock_slept]
          exact Nat.le_add_right_of_le ht
    intro ht
    rw [pollFrom_eq]
    refine .call fun reply plane => ?_
    split
    · exact frugal_ofOutcome _ _
    · exact hagain ht

/-- A wait that is cut off at the deadline. -/
theorem spends_waitFor (hinterval : config.pollInterval = .ofSecs interval) (hpos : 0 < interval)
    (w : World σ) :
    Spends (I := storeInterface T) answer deadline 0 1
      (waitFor name (config.boundedBy (.ofMillis deadline) w.now) predicate) w := by
  unfold waitFor
  refine .now (spends_pollFrom ?_ hpos ?_ countLimit (Nat.le_refl _))
  · rwa [WaitConfig.pollInterval_boundedBy]
  · rw [WaitConfig.timeout_boundedBy, Duration.nanos_min]
    refine Nat.le_trans (Nat.min_le_right _ _) ?_
    simp only [World.now, Instant.since, Instant.ofMillis, Duration.ofMillis]
    exact Nat.le_of_eq (Nat.sub_mul _ _ _).symm

end Wait

end BuildTrial
