import BuildTrial.Decimal.Notation
import BuildTrial.Json

/-!
# Numbers of JSON

A whole number that fits 64 bits stays whole. Any other number becomes a floating-point number by a
short computation that is near the number but need not be the nearest: the digits that fit 64 bits
are taken as a whole number, which is rounded, and then multiplied or divided by a power of ten and
rounded again.
-/

namespace BuildTrial.Json

/-- The digits at the start of a text that fit 64 bits: the number they are together with those
before, how many there are, and the rest. -/
def significand (value count : Nat) : List Char → Nat × Nat × List Char
  | [] => (value, count, [])
  | c :: rest =>
    if c.isDigit ∧ 10 * value + (c.toNat - 48) < 2 ^ 64 then
      significand (10 * value + (c.toNat - 48)) (count + 1) rest
    else (value, count, c :: rest)

/-- The greatest power of ten that is a floating-point number. -/
def maxPowerOfTen : Nat := 308

def powerOfTen (n : Nat) : Binary64 := .ofNat (10 ^ n)

/-- Divide by a power of ten, in steps as long as that is too large for one. -/
def shrink (x : Binary64) (exponent : Nat) : Binary64 :=
  if exponent ≤ maxPowerOfTen then x / powerOfTen exponent
  else if x = .zero then x
  else shrink (x / powerOfTen maxPowerOfTen) (exponent - maxPowerOfTen)
termination_by exponent
decreasing_by unfold maxPowerOfTen at *; omega

/-- The number with the given digits and power of ten; none if it is out of range. -/
def scaled? (significand : Nat) (exponent : Int) : Option Binary64 :=
  let x := Binary64.ofNat significand
  if exponent < 0 then some (shrink x exponent.natAbs)
  else if exponent ≤ maxPowerOfTen then
    match x * powerOfTen exponent.natAbs with
    | .infinite _ => none
    | product => some product
  else if significand = 0 then some x
  else none

/-- A floating-point number with a sign. -/
def floating (negative : Bool) (x : Binary64) : Json := .float (if negative then -x else x)

/-- The bounds of exponents; those beyond are cut down to them. -/
def maxExponent : Int := 2 ^ 31 - 1

def minExponent : Int := -2 ^ 31

/-- A number with digits in front of its written exponent. An exponent that is no number of 32 bits
leaves a number out of range or zero, whatever the digits add to it. -/
def withExponent (negative : Bool) (significand : Nat) (shift exponent : Int) : Option Json :=
  if maxExponent < exponent then
    if significand = 0 then some (floating negative .zero) else none
  else if exponent < -maxExponent then some (floating negative .zero)
  else
    let exponent := max minExponent (min maxExponent (shift + exponent))
    (scaled? significand exponent).map (floating negative)

/-- A whole number without a point and an exponent, of which all digits fit 64 bits. -/
def whole (negative : Bool) (value : Nat) : Json :=
  if !negative then .int value
  else if value = 0 ∨ 2 ^ 63 < value then floating true (.ofNat value)
  else .int (-(value : Int))

/-- What a number without its sign stands for: none inside if it is out of range. -/
def unsigned? (negative : Bool) (cs : List Char) : Option (Option Json) :=
  let (value, count, rest) := significand 0 0 cs
  let excess := (rest.takeWhile Char.isDigit).length
  let rest := rest.drop excess
  -- no digits, or a zero in front of others
  if count = 0 ∨ (1 < count + excess ∧ cs.head? = some '0') then none
  else
    match rest with
    | '.' :: rest =>
      if rest.head?.any Char.isDigit then
        let (value, places, rest) := significand value 0 rest
        (Decimal.exponent? (rest.dropWhile Char.isDigit)).map
          (withExponent negative value (Int.ofNat excess - Int.ofNat places))
      else none
    | [] =>
      some (if excess = 0 then some (whole negative value)
        else withExponent negative value excess 0)
    | rest => (Decimal.exponent? rest).map (withExponent negative value excess)

/-- What a number stands for, if the text is one; none inside if it is out of range. -/
def number? : List Char → Option (Option Json)
  | '-' :: cs => unsigned? true cs
  | cs => unsigned? false cs

end BuildTrial.Json
