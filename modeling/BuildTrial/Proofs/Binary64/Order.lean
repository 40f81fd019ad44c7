import BuildTrial.Proofs.Binary64.Rounding

/-!
# Rounding keeps the order

What is not smaller is not rounded to something smaller: of two fractions (`roundDiv_mono`), and so of two
numbers of seconds that are turned into durations (`Duration.ofSeconds_mono`). The order of numbers is that of
their units (`Binary64.units`), which speak of a value only from the least exponent on. Whatever an operation
rounds has such an exponent, whatever its operands were (`Binary64.fromLeast_ofRatio`).
-/

namespace BuildTrial

/-! ## Fractions -/

section

variable {num den num' den' : Nat}

theorem roundDiv_of_below (h : 2 * (num % den) < den) : roundDiv num den = num / den := if_pos h

theorem roundDiv_of_tie (h : 2 * (num % den) = den) :
    roundDiv num den = num / den + num / den % 2 := by
  unfold roundDiv
  dsimp only
  rw [if_neg (by omega), if_neg (by omega)]

theorem roundDiv_of_above (h : den < 2 * (num % den)) : roundDiv num den = num / den + 1 := by
  unfold roundDiv
  dsimp only
  rw [if_neg (by omega), if_pos h]

/-- Two fractions between the same whole numbers are rounded in the order of what they have beyond the lower
one. -/
theorem roundDiv_le_of_rest (hden : 0 < den) (hden' : 0 < den') (hquot : num / den = num' / den')
    (hrest : num % den * den' ≤ num' % den' * den) : roundDiv num den ≤ roundDiv num' den' := by
  rcases Nat.lt_trichotomy (2 * (num % den)) den with hbelow | htie | habove
  · rw [roundDiv_of_below hbelow, hquot]
    exact le_roundDiv hden' (Nat.div_mul_le_self num' den')
  · have hhalf : den' ≤ 2 * (num' % den') := by
      refine Nat.le_of_mul_le_mul_right ?_ hden
      calc den' * den ≤ den' * (2 * (num % den)) := Nat.mul_le_mul_left den' htie.ge
        _ ≤ 2 * (num' % den') * den := by linarith
    rw [roundDiv_of_tie htie, hquot]
    rcases Nat.lt_or_eq_of_le hhalf with habove' | htie'
    · rw [roundDiv_of_above habove']
      omega
    · rw [roundDiv_of_tie htie'.symm]
  · have habove' : den' < 2 * (num' % den') := by
      refine Nat.lt_of_mul_lt_mul_right (a := den) ?_
      calc den' * den < den' * (2 * (num % den)) := Nat.mul_lt_mul_of_pos_left habove hden'
        _ ≤ 2 * (num' % den') * den := by linarith
    rw [roundDiv_of_above habove, roundDiv_of_above habove', hquot]

/-- The greater fraction is not rounded to the smaller number. -/
theorem roundDiv_mono (hden : 0 < den) (hden' : 0 < den') (h : num * den' ≤ num' * den) :
    roundDiv num den ≤ roundDiv num' den' := by
  have hquot : num / den ≤ num' / den' := by
    rw [Nat.le_div_iff_mul_le hden']
    refine Nat.le_of_mul_le_mul_right ?_ hden
    calc num / den * den' * den = num / den * den * den' := Nat.mul_right_comm _ _ _
      _ ≤ num * den' := Nat.mul_le_mul_right _ (Nat.div_mul_le_self num den)
      _ ≤ num' * den := h
  rcases Nat.lt_or_eq_of_le hquot with hlt | heq
  · -- A whole number lies between the two.
    exact Nat.le_trans (roundDiv_le hden (Nat.lt_mul_of_div_lt hlt hden).le)
      (le_roundDiv hden' (Nat.div_mul_le_self num' den'))
  · refine roundDiv_le_of_rest hden hden' heq ?_
    rw [← Nat.div_add_mod num den, ← Nat.div_add_mod num' den', heq] at h
    linarith

end

namespace Binary64

/-! ## Numbers -/

/-- A finite number is written with an exponent from the least one on. -/
def FromLeast : Binary64 → Prop
  | .finite _ _ e => minExponent ≤ e
  | _ => True

theorem fromLeast_ofRatio (negative : Bool) (num den : Nat) :
    (ofRatio negative num den).FromLeast := by
  have hexp : minExponent ≤ ratioExponent num den := Int.le_max_right _ _
  unfold ofRatio
  split
  · exact Int.le_refl _
  dsimp only
  split
  · split
    · trivial
    · exact Int.le_add_one hexp
  · split
    · trivial
    · exact hexp

theorem fromLeast_mul (x y : Binary64) : (x * y).FromLeast := by
  show (mul x y).FromLeast
  unfold mul
  split
  case h_6 => exact fromLeast_ofRatio _ _ _
  all_goals first | trivial | (split <;> trivial)

/-- The value of a number as a fraction, in the units that order numbers. -/
theorem fraction_fst_mul {m : Nat} {e : Int} (he : minExponent ≤ e) :
    (fraction m e).1 * 2 ^ 1074 = m * 2 ^ (e - minExponent).toNat * (fraction m e).2 := by
  have hmin : minExponent = -1074 := rfl
  unfold fraction
  split
  · have hexp : (e - minExponent).toNat = e.toNat + 1074 := by omega
    rw [hexp, Nat.pow_add, Nat.mul_one, Nat.mul_assoc]
  · have hexp : 1074 = (e - minExponent).toNat + (-e).toNat := by omega
    rw [hexp, Nat.pow_add, Nat.mul_assoc]

theorem fraction_snd_pos (m : Nat) (e : Int) : 0 < (fraction m e).2 := by
  unfold fraction
  split
  · exact Nat.one_pos
  · exact Nat.two_pow_pos _

/-- The sign of a zero does not count. -/
theorem units_of_negative_zero {s : Bool} {m : Nat} (hs : s = true → m = 0) (e : Int) :
    units s m e = units false m e := by
  cases s with
  | false => rfl
  | true => simp [units, hs rfl]

/-- Numbers in their order are fractions in their order. -/
theorem fraction_mono {m n : Nat} {e f : Int} (he : minExponent ≤ e) (hf : minExponent ≤ f)
    (h : units false m e ≤ units false n f) :
    (fraction m e).1 * (fraction n f).2 ≤ (fraction n f).1 * (fraction m e).2 := by
  have hunits : m * 2 ^ (e - minExponent).toNat ≤ n * 2 ^ (f - minExponent).toNat := by
    simp only [units, Bool.false_eq_true, if_false] at h
    exact_mod_cast h
  refine Nat.le_of_mul_le_mul_right ?_ (Nat.two_pow_pos 1074)
  calc (fraction m e).1 * (fraction n f).2 * 2 ^ 1074
      = (fraction m e).1 * 2 ^ 1074 * (fraction n f).2 := Nat.mul_right_comm _ _ _
    _ = m * 2 ^ (e - minExponent).toNat * (fraction m e).2 * (fraction n f).2 := by
      rw [fraction_fst_mul he]
    _ ≤ n * 2 ^ (f - minExponent).toNat * (fraction m e).2 * (fraction n f).2 :=
      Nat.mul_le_mul_right _ (Nat.mul_le_mul_right _ hunits)
    _ = n * 2 ^ (f - minExponent).toNat * (fraction n f).2 * (fraction m e).2 :=
      Nat.mul_right_comm _ _ _
    _ = (fraction n f).1 * (fraction m e).2 * 2 ^ 1074 := by
      rw [← fraction_fst_mul hf, Nat.mul_right_comm]

/-- The smaller of two numbers is the second, or the first with the second not below it. -/
theorem min_cases (x y : Binary64) : min x y = y ∨ min x y = x ∧ lt y x = false := by
  show minimum x y = y ∨ minimum x y = x ∧ lt y x = false
  unfold minimum
  split
  · exact .inl rfl
  · exact .inr ⟨rfl, rfl⟩
  · split
    · exact .inl rfl
    · rename_i hlt
      exact .inr ⟨rfl, Bool.eq_false_of_not_eq_true hlt⟩

end Binary64

/-! ## Durations -/

namespace Duration

open Binary64

variable {x y : Binary64} {d cap : Duration}

theorem fromLeast_toSeconds (d : Duration) : d.toSeconds.FromLeast := by
  unfold toSeconds
  split
  · exact fromLeast_ofRatio _ _ _
  · exact fromLeast_ofRatio _ _ _

/-- A number of seconds that is a duration is finite, and below zero only in its sign. -/
theorem exists_of_ofSeconds (h : ofSeconds x = .ok d) :
    ∃ s m e, x = .finite s m e ∧ (s = true → m = 0) ∧
      d = ⟨roundDiv ((fraction m e).1 * nanosPerSec) (fraction m e).2⟩ := by
  unfold ofSeconds at h
  split at h
  · cases h
  rename_i hsign
  cases x with
  | nan => cases h
  | infinite s => cases h
  | finite s m e =>
    refine ⟨s, m, e, rfl, ?_, ?_⟩
    · rintro rfl
      refine Nat.eq_zero_of_not_pos fun hm => hsign ?_
      have hsize : (0 : Int) < m * 2 ^ (e - minExponent).toNat :=
        Int.mul_pos (Int.natCast_pos.mpr hm) (Int.pow_pos (by decide))
      simpa [lt, Binary64.zero, units] using hsize
    · dsimp only at h
      split at h
      · exact (Except.ok.inj h).symm
      · cases h

/-- More seconds are not a shorter duration. -/
theorem ofSeconds_mono (hx : x.FromLeast) (hy : y.FromLeast) (hle : lt y x = false)
    (hd : ofSeconds x = .ok d) (hcap : ofSeconds y = .ok cap) : d ≤ cap := by
  obtain ⟨s, m, e, rfl, hs, rfl⟩ := exists_of_ofSeconds hd
  obtain ⟨t, n, f, rfl, ht, rfl⟩ := exists_of_ofSeconds hcap
  have horder : units false m e ≤ units false n f := by
    rw [← units_of_negative_zero hs, ← units_of_negative_zero ht]
    exact Int.not_lt.mp (of_decide_eq_false (lt_finite ▸ hle))
  refine le_def.mpr (roundDiv_mono (fraction_snd_pos m e) (fraction_snd_pos n f) ?_)
  calc (fraction m e).1 * nanosPerSec * (fraction n f).2
      = (fraction m e).1 * (fraction n f).2 * nanosPerSec := Nat.mul_right_comm _ _ _
    _ ≤ (fraction n f).1 * (fraction m e).2 * nanosPerSec :=
      Nat.mul_le_mul_right _ (fraction_mono hx hy horder)
    _ = (fraction n f).1 * nanosPerSec * (fraction m e).2 := Nat.mul_right_comm _ _ _

/-- The smaller number of seconds is not a longer duration than either, and one that is no number is passed
over. -/
theorem ofSeconds_min_le (hx : x.FromLeast) (hy : y.FromLeast) (hd : ofSeconds (min x y) = .ok d)
    (hcap : ofSeconds y = .ok cap) : d ≤ cap := by
  rcases min_cases x y with hmin | ⟨hmin, hle⟩
  · rw [hmin, hcap] at hd
    cases hd
    exact Nat.le_refl _
  · rw [hmin] at hd
    exact ofSeconds_mono hx hy hle hd hcap

end Duration

end BuildTrial
