import BuildTrial.Binary64

/-!
# Writing floating-point numbers in decimal

The shortest decimal that reads back as the same number: on the grid of one digit, then two, and so
on, the two neighbours of the exact value are tested against the interval of reals that round to the
number. Three spellings are built on it: the one of schedules (`Binary64.scheduleText`), the one of
JSON documents (`Binary64.jsonText`) and one without exponents (`Binary64.positionalText`).
`Binary64.fixed` writes a fixed number of places.
-/

namespace BuildTrial

/-- The decimal number `0.d₁d₂…dₙ * 10 ^ point`, given by the natural number `d₁d₂…dₙ`. -/
structure Decimal where
  digits : Nat
  point : Int
deriving DecidableEq, Repr

namespace Decimal

/-- How many decimal digits a natural number has. -/
def length (n : Nat) : Nat := (toString n).length

/-- `num / den` in units of `10 ^ place`, as a fraction. -/
def onGrid (num den : Nat) (place : Int) : Nat × Nat :=
  if 0 ≤ place then (num, den * 10 ^ place.toNat) else (num * 10 ^ (-place).toNat, den)

/-- The least `k` with `num / den < 10 ^ k`, for a fraction above `10 ^ -400`. -/
def magnitude (num den : Nat) : Int := (length (num * 10 ^ 400 / den) : Int) - 400

/-- The reals that round to a given number, as three fractions over one denominator. -/
structure Interval where
  low : Nat
  value : Nat
  high : Nat
  den : Nat
  /-- Whether the two ends round to the number as well. -/
  closed : Bool

/-- Half way to either neighbour; just above a power of two the lower one is nearer. -/
def Interval.around (mantissa : Nat) (exponent : Int) : Interval :=
  let (unit, den) := Binary64.fraction 1 (exponent - 2)
  let below := if mantissa = 2 ^ 52 ∧ Binary64.minExponent < exponent then 1 else 2
  ⟨(4 * mantissa - below) * unit, 4 * mantissa * unit, (4 * mantissa + 2) * unit, den,
    mantissa % 2 = 0⟩

/-- Whether `n * 10 ^ place` lies in the interval. -/
def Interval.holds (i : Interval) (n : Nat) (place : Int) : Bool :=
  let (low, lowDen) := onGrid i.low i.den place
  let (high, highDen) := onGrid i.high i.den place
  if i.closed then low ≤ n * lowDen && n * highDen ≤ high
  else low < n * lowDen && n * highDen < high

/-- The point of the grid `10 ^ place` nearest to the value of the interval, among the value's two
neighbours that lie in the interval; on a tie the even one. -/
def Interval.hit? (i : Interval) (place : Int) : Option Nat :=
  let (num, den) := onGrid i.value i.den place
  let below := num / den
  match i.holds below place, i.holds (below + 1) place with
  | true, true => some (roundDiv num den)
  | true, false => some below
  | false, true => some (below + 1)
  | false, false => none

/-- The first grid with a hit, from `count - left` digits on; the exact value needs no more than
seventeen. -/
def Interval.search (i : Interval) (point : Int) : (left digits : Nat) → Decimal
  | 0, digits => ⟨i.value * 10 ^ digits / i.den, point⟩
  | left + 1, digits =>
    match i.hit? (point - digits) with
    | some n => if length n = digits then ⟨n, point⟩ else ⟨n / 10, point + 1⟩
    | none => search i point left (digits + 1)

/-- The shortest decimal that rounds to `mantissa * 2 ^ exponent`. -/
def shortest (mantissa : Nat) (exponent : Int) : Decimal :=
  let i := Interval.around mantissa exponent
  i.search (magnitude i.value i.den) 17 1

def zeros (n : Int) : String := String.ofList (List.replicate n.toNat '0')

/-- Digits with a point: at least one digit on either side of it. -/
def positional (d : Decimal) : String :=
  let text := toString d.digits
  let count : Int := text.length
  if d.point ≤ 0 then "0." ++ zeros (-d.point) ++ text
  else if count ≤ d.point then text ++ zeros (d.point - count) ++ ".0"
  else
    String.ofList (text.toList.take d.point.toNat) ++ "." ++
      String.ofList (text.toList.drop d.point.toNat)

/-- One digit, the others behind a point, and the power of ten. -/
def scientific (d : Decimal) : String :=
  let text := (toString d.digits).toList
  let fraction := text.drop 1
  String.ofList (text.take 1) ++ (if fraction.isEmpty then "" else "." ++ String.ofList fraction) ++
    "e" ++ toString (d.point - 1)

end Decimal

namespace Binary64

def sign (negative : Bool) : String := if negative then "-" else ""

/-- The decimal of a finite number, positional where its point lies in the given range. -/
def spell (least greatest : Int) (mantissa : Nat) (exponent : Int) : String :=
  if mantissa = 0 then "0.0"
  else
    let d := Decimal.shortest mantissa exponent
    if least ≤ d.point ∧ d.point ≤ greatest then d.positional else d.scientific

/-- In a schedule, numbers from `0.0001` up to `10 ^ 16` are positional. -/
def scheduleText : Binary64 → String
  | .nan => "NaN"
  | .infinite negative => sign negative ++ "inf"
  | .finite negative mantissa exponent => sign negative ++ spell (-3) 16 mantissa exponent

/-- In a JSON document, numbers from `0.00001` up to `10 ^ 16` are positional, and what is no
finite number is `null`. -/
def jsonText : Binary64 → String
  | .finite negative mantissa exponent => sign negative ++ spell (-4) 16 mantissa exponent
  | _ => "null"

/-- Without an exponent, however many digits that takes. -/
def positionalText : Binary64 → String
  | .nan => "NaN"
  | .infinite negative => sign negative ++ "inf"
  | .finite negative mantissa exponent => sign negative ++ spell (-400) 400 mantissa exponent

/-- A finite number with the given count of places after the point, rounded from its exact value. -/
def fixed (places : Nat) : Binary64 → String
  | .nan => "NaN"
  | .infinite negative => sign negative ++ "inf"
  | .finite negative mantissa exponent =>
    let (num, den) := fraction mantissa exponent
    let value := roundDiv (num * 10 ^ places) den
    let whole := toString (value / 10 ^ places)
    sign negative ++
      if places = 0 then whole
      else whole ++ "." ++ Duration.padZeros places (toString (value % 10 ^ places))

end Binary64

end BuildTrial
