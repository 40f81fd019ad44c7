import BuildTrial.Text.Bytes
import Mathlib.Data.Option.Basic

/-!
# Reading base64 back

The written form of bytes is read as these bytes, whatever they are and however many stand in the last
group (`decode?_encode`). A digit is never the padding, so a group of three bytes is not taken for the
last one.
-/

namespace BuildTrial.Text.Base64

theorem guard_pos {p : Prop} [Decidable p] (h : p) : (guard p : Option Unit) = some () := if_pos h

theorem digit_ne_pad {n : Nat} (h : n < 64) : digit n ≠ '=' := by
  intro hpad
  have hvalue := value?_digit n h
  rw [hpad, value?_pad] at hvalue
  cases hvalue

/-- A group of four digits is three bytes, whatever comes after it. -/
theorem decode?_group {w x y z : Nat} (hw : w < 64) (hx : x < 64) (hy : y < 64) (hz : z < 64)
    (rest : List Char) :
    decode? (digit w :: digit x :: digit y :: digit z :: rest) =
      (decode? rest).map fun bytes =>
        UInt8.ofNat (w * 4 + x / 16) :: UInt8.ofNat (x % 16 * 16 + y / 4) ::
          UInt8.ofNat (y % 4 * 64 + z) :: bytes := by
  have hpad : digit z ≠ '=' := digit_ne_pad hz
  rw [decode?]
  · simp only [value?_digit, hw, hx, hy, hz]
    cases decode? rest <;> rfl
  · intro hy' hz' _
    exact hpad hz'
  · intro hz' _
    exact hpad hz'

/-- A last group of one byte. -/
theorem decode?_one {w x : Nat} (hw : w < 64) (hx : x < 64) (hzero : x % 16 = 0) :
    decode? [digit w, digit x, '=', '='] = some [UInt8.ofNat (w * 4 + x / 16)] := by
  rw [decode?, value?_digit w hw, value?_digit x hx]
  change (guard (x % 16 = 0) >>= fun _ => some _) = _
  rw [guard_pos hzero]
  rfl

/-- A last group of two bytes. -/
theorem decode?_two {w x y : Nat} (hw : w < 64) (hx : x < 64) (hy : y < 64) (hzero : y % 4 = 0) :
    decode? [digit w, digit x, digit y, '='] =
      some [UInt8.ofNat (w * 4 + x / 16), UInt8.ofNat (x % 16 * 16 + y / 4)] := by
  have hpad : digit y ≠ '=' := digit_ne_pad hy
  rw [decode?]
  · rw [value?_digit w hw, value?_digit x hx, value?_digit y hy]
    change (guard (y % 4 = 0) >>= fun _ => some _) = _
    rw [guard_pos hzero]
    rfl
  · intro hy'
    exact hpad hy'

/-- The parts of a byte, of which a digit takes the upper or the lower one, make up the byte. -/
theorem ofNat_of_toNat_eq {a : UInt8} {n : Nat} (h : n = a.toNat) : UInt8.ofNat n = a := by
  rw [h, UInt8.ofNat_toNat]

theorem decode?_encode (bytes : List UInt8) : decode? (encode bytes) = some bytes := by
  fun_induction encode bytes with
  | case1 => rfl
  | case2 a =>
    have ha := a.toNat_lt
    rw [decode?_one (by omega) (by omega) (by omega), ofNat_of_toNat_eq (a := a) (by omega)]
  | case3 a b =>
    have ha := a.toNat_lt
    have hb := b.toNat_lt
    rw [decode?_two (by omega) (by omega) (by omega) (by omega),
      ofNat_of_toNat_eq (a := a) (by omega), ofNat_of_toNat_eq (a := b) (by omega)]
  | case4 a b c rest ih =>
    have ha := a.toNat_lt
    have hb := b.toNat_lt
    have hc := c.toNat_lt
    rw [decode?_group (by omega) (by omega) (by omega) (by omega), ih, Option.map_some,
      ofNat_of_toNat_eq (a := a) (by omega), ofNat_of_toNat_eq (a := b) (by omega),
      ofNat_of_toNat_eq (a := c) (by omega)]

end BuildTrial.Text.Base64
