import BuildTrial.Duration

/-!
# Binary floating point with 53 bits

A finite number is a sign, a natural mantissa and a power of two, in the one form its value has:
below `2 ^ 53`, and at least `2 ^ 52` unless the exponent is the least one. Every operation computes
the exact rational and rounds it once, to the nearest such number, a tie to the even mantissa
(`Binary64.ofRatio`). Nothing here refers to machine floats, so each operation can be evaluated and
reasoned about in `Nat`.
-/

namespace BuildTrial

/-- `num / den` rounded to a natural number, a tie to the even neighbour. -/
def roundDiv (num den : Nat) : Nat :=
  let quotient := num / den
  let remainder := num % den
  if 2 * remainder < den then quotient
  else if den < 2 * remainder then quotient + 1
  else quotient + quotient % 2

/-- A double-precision number. -/
inductive Binary64 where
  /-- The value of an undefined operation; it differs from every number. -/
  | nan
  | infinite (negative : Bool)
  /-- The number `mantissa * 2 ^ exponent` with its sign. -/
  | finite (negative : Bool) (mantissa : Nat) (exponent : Int)
deriving DecidableEq, Repr, Inhabited

namespace Binary64

def minExponent : Int := -1074

def maxExponent : Int := 971

def zero : Binary64 := .finite false 0 minExponent

/-- Whether a finite number is in the one form that its value has. -/
def isCanonical : Binary64 → Bool
  | .finite _ m e =>
    m < 2 ^ 53 && minExponent ≤ e && e ≤ maxExponent && (2 ^ 52 ≤ m || e = minExponent)
  | _ => true

/-- The pair `(num', den')` with `num' / den' = num / den / 2 ^ exponent`. -/
def scale (num den : Nat) (exponent : Int) : Nat × Nat :=
  if 0 ≤ exponent then (num, den * 2 ^ exponent.toNat) else (num * 2 ^ (-exponent).toNat, den)

/-- The exponent of the binade of `num / den`: the greatest `k` with `2 ^ k ≤ num / den`. -/
def ratioLog2 (num den : Nat) : Int :=
  let guess : Int := (num.log2 : Int) - (den.log2 : Int)
  let (n, d) := scale num den guess
  if d ≤ n then guess else guess - 1

/-- The exponent at which `num / den` has a 53-bit mantissa, or the least exponent. -/
def ratioExponent (num den : Nat) : Int := max (ratioLog2 num den - 52) minExponent

/-- `num / den` rounded to the nearest number, a tie to the even mantissa; too large is infinite. -/
def ofRatio (negative : Bool) (num den : Nat) : Binary64 :=
  if num = 0 then .finite negative 0 minExponent
  else
    let exponent := ratioExponent num den
    let (n, d) := scale num den exponent
    let mantissa := roundDiv n d
    let (mantissa, exponent) :=
      if mantissa = 2 ^ 53 then (2 ^ 52, exponent + 1) else (mantissa, exponent)
    if maxExponent < exponent then .infinite negative else .finite negative mantissa exponent

def ofNat (n : Nat) : Binary64 := ofRatio false n 1

instance (n : Nat) : OfNat Binary64 n := ⟨ofNat n⟩

/-- The number nearest to `mantissa * 10 ^ exponent`. -/
def ofDecimal (negative : Bool) (mantissa : Nat) (exponent : Int) : Binary64 :=
  if 0 ≤ exponent then ofRatio negative (mantissa * 10 ^ exponent.toNat) 1
  else ofRatio negative mantissa (10 ^ (-exponent).toNat)

/-- The exact value of `mantissa * 2 ^ exponent` as a fraction. -/
def fraction (mantissa : Nat) (exponent : Int) : Nat × Nat :=
  if 0 ≤ exponent then (mantissa * 2 ^ exponent.toNat, 1) else (mantissa, 2 ^ (-exponent).toNat)

def mul : Binary64 → Binary64 → Binary64
  | .nan, _ => .nan
  | _, .nan => .nan
  | .infinite s, .infinite t => .infinite (s != t)
  | .infinite s, .finite t m _ => if m = 0 then .nan else .infinite (s != t)
  | .finite s m _, .infinite t => if m = 0 then .nan else .infinite (s != t)
  | .finite s m e, .finite t n f =>
    let (num, den) := fraction (m * n) (e + f)
    ofRatio (s != t) num den

instance : Mul Binary64 := ⟨mul⟩

/-- The quotient; a finite number by zero is infinite. -/
def div : Binary64 → Binary64 → Binary64
  | .nan, _ => .nan
  | _, .nan => .nan
  | .infinite _, .infinite _ => .nan
  | .infinite s, .finite t _ _ => .infinite (s != t)
  | .finite s _ _, .infinite t => .finite (s != t) 0 minExponent
  | .finite s m e, .finite t n f =>
    if n = 0 then if m = 0 then .nan else .infinite (s != t)
    else
      let (num, den) := fraction m e
      let (num', den') := fraction n f
      ofRatio (s != t) (num * den') (den * num')

instance : Div Binary64 := ⟨div⟩

def neg : Binary64 → Binary64
  | .nan => .nan
  | .infinite s => .infinite !s
  | .finite s m e => .finite (!s) m e

instance : Neg Binary64 := ⟨neg⟩

/-- The sum of two non-negative finite numbers. -/
def addFinite (m : Nat) (e : Int) (n : Nat) (f : Int) : Binary64 :=
  let low := min e f
  let (num, den) := fraction (m * 2 ^ (e - low).toNat + n * 2 ^ (f - low).toNat) low
  ofRatio false num den

/-- The order key of a finite number: its value in units of the least positive number. -/
def units (negative : Bool) (mantissa : Nat) (exponent : Int) : Int :=
  let size : Int := mantissa * 2 ^ (exponent - minExponent).toNat
  if negative then -size else size

/-- Strictly below; false as soon as one side is not a number. -/
def lt : Binary64 → Binary64 → Bool
  | .nan, _ => false
  | _, .nan => false
  | .infinite s, .infinite t => s && !t
  | .infinite s, .finite .. => s
  | .finite .., .infinite t => !t
  | .finite s m e, .finite t n f => decide (units s m e < units t n f)

/-- The smaller of two numbers; a side that is not a number is passed over. -/
def minimum : Binary64 → Binary64 → Binary64
  | .nan, y => y
  | x, .nan => x
  | x, y => if lt y x then y else x

instance : Min Binary64 := ⟨minimum⟩

end Binary64

namespace Duration

/-- The duration in seconds: the whole seconds plus the fraction, each rounded, and their sum
rounded again. -/
def toSeconds (d : Duration) : Binary64 :=
  match Binary64.ofNat d.secs, Binary64.ofRatio false d.subsecNanos nanosPerSec with
  | .finite _ m e, .finite _ n f => Binary64.addFinite m e n f
  | whole, _ => whole

/-- Why a number of seconds is no duration. -/
inductive SecondsError where
  | negative
  | outOfRange
deriving DecidableEq, Repr

def SecondsError.message : SecondsError → String
  | .negative => "cannot convert float seconds to Duration: value is negative"
  | .outOfRange => "cannot convert float seconds to Duration: value is either too big or NaN"

/-- The duration of `x` seconds, rounded to the nearest nanosecond, a tie to the even one. A number
below zero is refused, and so is one that reaches `2 ^ 64` seconds. -/
def ofSeconds (x : Binary64) : Except SecondsError Duration :=
  if Binary64.lt x .zero then .error .negative
  else match x with
    | .finite _ m e =>
      let (num, den) := Binary64.fraction m e
      if num < 2 ^ 64 * den then .ok ⟨roundDiv (num * nanosPerSec) den⟩ else .error .outOfRange
    | _ => .error .outOfRange

end Duration

/-- A random factor in `[0.5, 1.5)` by which a delay is stretched. -/
structure Jitter where
  factor : Binary64
  canonical : factor.isCanonical = true
  half_le : Binary64.lt factor (.ofRatio false 1 2) = false
  lt_three_halves : Binary64.lt factor (.ofRatio false 3 2) = true

namespace Jitter

/-- The factor one, which leaves delays as they are. -/
def none : Jitter := ⟨1, by decide +kernel, by decide +kernel, by decide +kernel⟩

instance : Inhabited Jitter := ⟨none⟩

end Jitter

end BuildTrial
