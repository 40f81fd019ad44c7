import BuildTrial.Proofs.Binary64.Rounding
import BuildTrial.Retry

/-!
# How long the pauses between conflicting updates are

The delay of `RetryConfig.forConflicts` is ten milliseconds, and a random factor makes it anything
between five and fifteen: the delay is turned into seconds, multiplied, and turned back, and each of
the three steps rounds.
-/

namespace BuildTrial

/-- A random factor is written with the exponent of one half or with that of one. -/
theorem Jitter.factor_cases (j : Jitter) :
    ∃ m, 2 ^ 52 ≤ m ∧ (m < 2 ^ 53 ∧ j.factor = .finite false m (-53) ∨
      m < 3 * 2 ^ 51 ∧ j.factor = .finite false m (-52)) := by
  have hhalf : Binary64.ofRatio false 1 2 = .finite false (2 ^ 52) (-53) := by decide +kernel
  have hthree : Binary64.ofRatio false 3 2 = .finite false (3 * 2 ^ 51) (-52) := by decide +kernel
  have hlow := j.half_le
  have hhigh := j.lt_three_halves
  have hcanonical := j.canonical
  rw [hhalf] at hlow
  rw [hthree] at hhigh
  cases hfactor : j.factor with
  | nan =>
    rw [hfactor] at hhigh
    cases hhigh
  | infinite s =>
    rw [hfactor] at hlow hhigh
    cases hlow.symm.trans hhigh
  | finite s m e =>
    rw [hfactor] at hlow hhigh hcanonical
    simp only [Binary64.isCanonical, Bool.and_eq_true, Bool.or_eq_true, decide_eq_true_eq]
      at hcanonical
    obtain ⟨⟨⟨hm, hmin⟩, -⟩, hfull⟩ := hcanonical
    have hlow := of_decide_eq_false (Binary64.lt_finite ▸ hlow)
    have hhigh := of_decide_eq_true (Binary64.lt_finite ▸ hhigh)
    have hminExponent : Binary64.minExponent = -1074 := rfl
    cases s with
    | true =>
      exact absurd (Binary64.units_lt_of_negative (by decide)) hlow
    | false =>
      -- with full mantissas a larger exponent makes a larger number, which leaves two exponents
      have hge : -53 ≤ e := Int.not_lt.mp fun h => hlow (Binary64.units_lt hm (Nat.le_refl _) hmin h)
      have hm' : 2 ^ 52 ≤ m := hfull.resolve_right (by omega)
      have hle : e ≤ -52 := by
        refine Int.not_lt.mp fun h => absurd hhigh (Int.not_lt.mpr (Int.le_of_lt ?_))
        exact Binary64.units_lt (by decide) hm' (by decide) h
      refine ⟨m, hm', ?_⟩
      obtain rfl | rfl : e = -53 ∨ e = -52 := by omega
      · exact .inl ⟨hm, rfl⟩
      · refine .inr ⟨?_, rfl⟩
        simp only [Binary64.units, Bool.false_eq_true, if_false] at hhigh
        have h := Int.lt_of_mul_lt_mul_right hhigh (Int.pow_nonneg (by decide))
        exact_mod_cast h

namespace Backoff

theorem stretched_forConflicts (j : Jitter) :
    ∃ span, stretched (.ofConfig .forConflicts) j = .ok span ∧
      1 ≤ span.nanos ∧ span.nanos ≤ 15 * Duration.nanosPerMilli := by
  have hdelay : (Duration.ofMillis 10).toSeconds = .finite false 5764607523034235 (-59) := by
    decide +kernel
  show ∃ span, Duration.ofSeconds ((Duration.ofMillis 10).toSeconds * j.factor) = .ok span ∧ _
  rw [hdelay]
  obtain ⟨m, hm, ⟨hlt, hfactor⟩ | ⟨hlt, hfactor⟩⟩ := j.factor_cases
  · rw [hfactor, Binary64.mul_finite (p := 112) _ _ (by decide) (by decide)]
    by_cases hsmall : 5764607523034235 * m < 2 ^ 105
    · refine Duration.ofSeconds_ofRatio (i := 104) ((Nat.log2_eq_iff (by omega)).mpr (by omega))
        (by omega) (by decide) (by decide) (by decide) (b := 2 ^ 53) ?_ (by decide) (by decide)
      omega
    · refine Duration.ofSeconds_ofRatio (i := 105) ((Nat.log2_eq_iff (by omega)).mpr (by omega))
        (by omega) (by decide) (by decide) (by decide) (b := 5764607523034235) ?_ (by decide)
        (by decide)
      omega
  · rw [hfactor, Binary64.mul_finite (p := 111) _ _ (by decide) (by decide)]
    refine Duration.ofSeconds_ofRatio (i := 104) ((Nat.log2_eq_iff (by omega)).mpr (by omega))
      (by omega) (by decide) (by decide) (by decide) (b := 8646911284551352) ?_ (by decide)
      (by decide)
    omega

/-- A pause between two conflicting updates lasts up to fifteen milliseconds, and the schedule stays
as it is. -/
theorem next_forConflicts (j : Jitter) :
    ∃ span, next (.ofConfig .forConflicts) j = .returned (span, .ofConfig .forConflicts) ∧
      0 < span.nanos ∧ span.nanos ≤ 15 * Duration.nanosPerMilli := by
  have hadvanced : advanced (.ofConfig .forConflicts) = .ok (.ofConfig .forConflicts) := by
    decide +kernel
  obtain ⟨span, hspan, hpos, hle⟩ := stretched_forConflicts j
  refine ⟨span, ?_, hpos, hle⟩
  unfold next
  rw [hspan, hadvanced]

end Backoff

end BuildTrial
