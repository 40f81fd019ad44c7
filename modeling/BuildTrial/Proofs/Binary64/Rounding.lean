import BuildTrial.Binary64
import Mathlib.Data.Nat.Log
import Mathlib.Tactic.Linarith

/-!
# Bounds on rounded numbers

Rounding to a natural number never crosses another one (`roundDiv_le`, `le_roundDiv`). Over a power
of two the binade of a fraction is that of its numerator (`ratioLog2_two_pow`), so what the fraction
is rounded to can be read off: a mantissa of 53 bits over the same power of two, or the next power of
two. `Duration.ofSeconds_ofRatio` puts the two together for a number of seconds.
-/

namespace BuildTrial

/-! ## Rounding -/

theorem roundDiv_le {num den bound : Nat} (hden : 0 < den) (h : num ≤ bound * den) :
    roundDiv num den ≤ bound := by
  have hdiv := Nat.div_add_mod num den
  have hmod := Nat.mod_lt num hden
  have hquot : num / den ≤ bound := Nat.div_le_of_le_mul (by rwa [Nat.mul_comm])
  rcases Nat.lt_or_eq_of_le hquot with hlt | heq
  · unfold roundDiv
    dsimp only
    split
    · exact hquot
    split
    · exact hlt
    · have := Nat.mod_lt (num / den) (by decide : 0 < 2)
      omega
  · -- the quotient is the bound already, so nothing is left over
    have hzero : num % den = 0 := by
      rw [heq, Nat.mul_comm] at hdiv
      omega
    unfold roundDiv
    dsimp only
    rw [hzero, if_pos (by omega)]
    exact hquot

theorem le_roundDiv {num den bound : Nat} (hden : 0 < den) (h : bound * den ≤ num) :
    bound ≤ roundDiv num den := by
  have hquot : bound ≤ num / den := (Nat.le_div_iff_mul_le hden).mpr h
  unfold roundDiv
  dsimp only
  split
  · exact hquot
  split <;> omega

namespace Binary64

/-- Over a power of two, the binade of a fraction is that of its numerator. -/
theorem ratioLog2_two_pow {num : Nat} (hnum : num ≠ 0) (j : Nat) :
    ratioLog2 num (2 ^ j) = (num.log2 : Int) - j := by
  have hlog := Nat.log2_self_le hnum
  have hguess : (scale num (2 ^ j) ((num.log2 : Int) - j)).2 ≤
      (scale num (2 ^ j) ((num.log2 : Int) - j)).1 := by
    unfold scale
    split
    · rw [← Nat.pow_add]
      have hexp : j + ((num.log2 : Int) - j).toNat = num.log2 := by omega
      rwa [hexp]
    · have hexp : num.log2 + (-((num.log2 : Int) - j)).toNat = j := by omega
      calc 2 ^ j = 2 ^ num.log2 * 2 ^ (-((num.log2 : Int) - j)).toNat := by
            rw [← Nat.pow_add, hexp]
        _ ≤ num * 2 ^ (-((num.log2 : Int) - j)).toNat := Nat.mul_le_mul_right _ hlog
  unfold ratioLog2
  rw [Nat.log2_two_pow]
  dsimp only
  rw [if_pos hguess]

/-- A fraction over a power of two, below one and not too small: its mantissa is rounded once, and
may then be a power of two that is written with the next exponent. -/
theorem ofRatio_two_pow {num i j : Nat} (hlog : num.log2 = i) (hnum : num ≠ 0) (hlt : i < j)
    (hj : j ≤ i + 1022) :
    ∃ m k : Nat, ofRatio false num (2 ^ j) = .finite false m (-(j + 52 - i : Nat) + k) ∧
      k ≤ 1 ∧ m * 2 ^ k = roundDiv (num * 2 ^ (j + 52 - i)) (2 ^ j) := by
  have hexp : ratioExponent num (2 ^ j) = -((j + 52 - i : Nat) : Int) := by
    unfold ratioExponent minExponent
    rw [ratioLog2_two_pow hnum, hlog]
    omega
  have hscale : scale num (2 ^ j) (-((j + 52 - i : Nat) : Int)) =
      (num * 2 ^ (j + 52 - i), 2 ^ j) := by
    unfold scale
    rw [if_neg (by omega)]
    simp
  unfold ofRatio
  rw [if_neg hnum, hexp]
  dsimp only
  rw [hscale]
  dsimp only
  -- rounding up may fill the significand, which moves the binary point by one place
  by_cases hfull : roundDiv (num * 2 ^ (j + 52 - i)) (2 ^ j) = 2 ^ 53
  · refine ⟨2 ^ 52, 1, ?_, Nat.le_refl 1, ?_⟩
    · rw [if_pos hfull]
      exact if_neg (by unfold maxExponent; omega)
    · rw [hfull, ← Nat.pow_add]
  · refine ⟨roundDiv (num * 2 ^ (j + 52 - i)) (2 ^ j), 0, ?_, Nat.zero_le 1, ?_⟩
    · rw [if_neg hfull]
      dsimp only
      rw [if_neg (by unfold maxExponent; omega)]
      simp
    · rw [Nat.pow_zero, Nat.mul_one]

/-! ### The order -/

theorem lt_finite {s t : Bool} {m n : Nat} {e f : Int} :
    lt (.finite s m e) (.finite t n f) = decide (units s m e < units t n f) := rfl

/-- Of two numbers with full mantissas the one with the smaller exponent is the smaller one. -/
theorem units_lt {m n : Nat} {e f : Int} (hm : m < 2 ^ 53) (hn : 2 ^ 52 ≤ n)
    (he : minExponent ≤ e) (hlt : e < f) : units false m e < units false n f := by
  obtain ⟨k, hk⟩ : ∃ k : Nat, (f - minExponent).toNat = (e - minExponent).toNat + 1 + k :=
    ⟨(f - minExponent).toNat - (e - minExponent).toNat - 1, by omega⟩
  have h : m * 2 ^ (e - minExponent).toNat < n * 2 ^ (f - minExponent).toNat := by
    calc m * 2 ^ (e - minExponent).toNat < 2 ^ 53 * 2 ^ (e - minExponent).toNat :=
          Nat.mul_lt_mul_of_pos_right hm (Nat.two_pow_pos _)
      _ = 2 ^ 52 * 2 ^ ((e - minExponent).toNat + 1) := by
          rw [← Nat.pow_add, ← Nat.pow_add]
          congr 1
          omega
      _ ≤ n * 2 ^ (f - minExponent).toNat := by
          rw [hk]
          exact Nat.mul_le_mul hn (Nat.pow_le_pow_right (by decide) (Nat.le_add_right _ _))
  simp only [units, Bool.false_eq_true, if_false]
  exact_mod_cast h

theorem units_lt_of_negative {m n : Nat} {e f : Int} (hn : 0 < n) :
    units true m e < units false n f := by
  have hsize : (0 : Int) ≤ m * 2 ^ (e - minExponent).toNat :=
    Int.mul_nonneg (Int.natCast_nonneg m) (Int.pow_nonneg (by decide))
  have hpos : (0 : Int) < n * 2 ^ (f - minExponent).toNat :=
    Int.mul_pos (Int.natCast_pos.mpr hn) (Int.pow_pos (by decide))
  simp only [units, if_true, Bool.false_eq_true, if_false]
  omega

/-! ### The operations -/

theorem fraction_neg (m : Nat) {p : Nat} (hp : 0 < p) : fraction m (-(p : Int)) = (m, 2 ^ p) := by
  unfold fraction
  rw [if_neg (by omega)]
  simp

/-- A product below one. -/
theorem mul_finite (m n : Nat) {e f : Int} {p : Nat} (hp : 0 < p) (hsum : e + f = -(p : Int)) :
    Binary64.finite false m e * .finite false n f = ofRatio false (m * n) (2 ^ p) := by
  show ofRatio false (fraction (m * n) (e + f)).1 (fraction (m * n) (e + f)).2 = _
  rw [hsum, fraction_neg _ hp]

end Binary64

/-- Seconds that are a fraction over a power of two, as nanoseconds. -/
theorem Duration.ofSeconds_finite {m p low high : Nat} (hlow : low * 2 ^ p ≤ m * nanosPerSec)
    (hhigh : m * nanosPerSec ≤ high * 2 ^ p) (hp : 0 < p) (hm : m < 2 ^ 64 * 2 ^ p) :
    ∃ span, ofSeconds (.finite false m (-(p : Int))) = .ok span ∧
      low ≤ span.nanos ∧ span.nanos ≤ high := by
  have hsign : Binary64.lt (.finite false m (-(p : Int))) .zero = false := by
    simp [Binary64.lt, Binary64.zero, Binary64.units]
  refine ⟨⟨roundDiv (m * nanosPerSec) (2 ^ p)⟩, ?_, ?_, ?_⟩
  · unfold ofSeconds
    rw [if_neg (by rw [hsign]; exact Bool.false_ne_true)]
    dsimp only
    rw [Binary64.fraction_neg m hp]
    exact if_pos hm
  · exact le_roundDiv (Nat.two_pow_pos p) hlow
  · exact roundDiv_le (Nat.two_pow_pos p) hhigh

/-- Seconds that are a product over a power of two, as nanoseconds: the mantissa has 53 bits, and it
is not greater than a natural number that bounds what it is rounded from. -/
theorem Duration.ofSeconds_ofRatio {num i j b low high : Nat} (hlog : num.log2 = i)
    (hnum : num ≠ 0) (hlt : i < j) (hj : j ≤ i + 1022)
    (hlow : low * 2 ^ (j + 52 - i) ≤ 2 ^ 52 * nanosPerSec)
    (hbound : num * 2 ^ (j + 52 - i) ≤ b * 2 ^ j)
    (hhigh : b * nanosPerSec ≤ high * 2 ^ (j + 52 - i)) (hsmall : high < 2 ^ 64) :
    ∃ span, ofSeconds (Binary64.ofRatio false num (2 ^ j)) = .ok span ∧
      low ≤ span.nanos ∧ span.nanos ≤ high := by
  obtain ⟨m, k, hratio, hk, hm⟩ := Binary64.ofRatio_two_pow hlog hnum hlt hj
  obtain ⟨p, hp⟩ : ∃ p, j + 52 - i = p + k := ⟨j + 52 - i - k, by omega⟩
  have hexp : -((j + 52 - i : Nat) : Int) + k = -(p : Int) := by omega
  have hfull : 2 ^ 52 ≤ m * 2 ^ k := by
    rw [hm]
    refine le_roundDiv (Nat.two_pow_pos j) ?_
    calc 2 ^ 52 * 2 ^ j = 2 ^ i * 2 ^ (j + 52 - i) := by
          rw [← Nat.pow_add, ← Nat.pow_add]
          congr 1
          omega
      _ ≤ num * 2 ^ (j + 52 - i) := by
          rw [← hlog]
          exact Nat.mul_le_mul_right _ (Nat.log2_self_le hnum)
  have hround : m * 2 ^ k ≤ b := by
    rw [hm]
    exact roundDiv_le (Nat.two_pow_pos j) hbound
  -- the power of two that the exponent may be off by cancels
  have hpow := Nat.two_pow_pos k
  rw [hp, Nat.pow_add] at hlow hhigh
  have hleast : low * 2 ^ p ≤ m * nanosPerSec := by
    refine Nat.le_of_mul_le_mul_right ?_ hpow
    have := Nat.mul_le_mul_right nanosPerSec hfull
    linarith
  have hgreatest : m * nanosPerSec ≤ high * 2 ^ p := by
    refine Nat.le_of_mul_le_mul_right ?_ hpow
    have := Nat.mul_le_mul_right nanosPerSec hround
    linarith
  have hrange : m < 2 ^ 64 * 2 ^ p :=
    calc m ≤ m * nanosPerSec := Nat.le_mul_of_pos_right m (by decide)
      _ ≤ high * 2 ^ p := hgreatest
      _ < 2 ^ 64 * 2 ^ p := Nat.mul_lt_mul_of_pos_right hsmall (Nat.two_pow_pos p)
  rw [hratio, hexp]
  exact ofSeconds_finite hleast hgreatest (by omega) hrange

end BuildTrial
