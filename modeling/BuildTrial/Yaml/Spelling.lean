import BuildTrial.Binary64
import BuildTrial.Decimal.Notation
import BuildTrial.Text.Bytes

/-!
# Spellings of plain scalars

A plain scalar may stand for nothing, for a flag, for a whole number or for a floating-point number.
The spellings of flags and of nothing are few; numbers have a grammar each, in which digits with an
idle zero in front are no number.
-/

namespace BuildTrial.Yaml

namespace Tag

def bool : String := "tag:yaml.org,2002:bool"

def int : String := "tag:yaml.org,2002:int"

def float : String := "tag:yaml.org,2002:float"

def null : String := "tag:yaml.org,2002:null"

end Tag

def isNullText (s : String) : Bool := ["null", "Null", "NULL", "~"].contains s

/-- A flag in one of its spellings. -/
def flagOfText? (s : String) : Option Bool :=
  if ["true", "True", "TRUE"].contains s then some true
  else if ["false", "False", "FALSE"].contains s then some false
  else none

/-! ## Whole numbers -/

/-- The value of digits, of which there is at least one. -/
def digitsValue? (base : Nat) (cs : List Char) : Option Nat := do
  let digits ← cs.mapM fun c => (Text.hexDigit? c).filter (· < base)
  if digits.isEmpty then none
  else return digits.foldl (fun n digit => base * n + digit) 0

/-- Bases other than ten, by the letter after the zero that comes first. -/
def baseOfLetter? (c : Char) : Option Nat :=
  if c = 'x' then some 16 else if c = 'o' then some 8 else if c = 'b' then some 2 else none

/-- A whole number without a sign. One with a base says so first; any other does not begin with a
zero that could be left out. -/
def magnitude? : List Char → Option Nat
  | '0' :: c :: rest => (baseOfLetter? c).bind (digitsValue? · rest)
  | cs => digitsValue? 10 cs

/-- A whole number, perhaps with a plus sign. -/
def unsignedOfText? (s : String) : Option Nat :=
  match s.toList with
  | '+' :: cs => magnitude? cs
  | cs => magnitude? cs

/-- A whole number, perhaps with a sign. -/
def wholeOfText? (s : String) : Option Int :=
  match s.toList with
  | '-' :: cs => (magnitude? cs).map fun n => -(n : Int)
  | _ => (unsignedOfText? s).map fun n => (n : Int)

/-- A whole number of 64 bits without a minus sign. -/
def countOfText? (s : String) : Option Nat := (unsignedOfText? s).filter (· < 2 ^ 64)

/-! ## Floating-point numbers -/

/-- Whether a text is more than one digit, the first of which is zero, perhaps after a sign. -/
def hasIdleZero (s : String) : Bool :=
  let cs := match s.toList with
    | '-' :: cs => cs
    | '+' :: cs => cs
    | cs => cs
  1 < cs.length && cs.head? = some '0' && cs.all Char.isDigit

/-- No number with more places before the point is finite, and one with more zeros after the point is
zero. -/
def placeLimit : Int := 400

/-- The number nearest to digits with a power of ten, if it is finite. -/
def nearest? (negative : Bool) (digits : List Char) (exponent : Int) : Option Binary64 :=
  let digits := digits.dropWhile (· = '0')
  let places := digits.length + exponent
  if digits.isEmpty ∨ places < -placeLimit then some (.ofRatio negative 0 1)
  else if placeLimit < places then none
  else
    match Binary64.ofDecimal negative (Decimal.ofDigits digits) exponent with
    | .infinite _ => none
    | x => some x

/-- A finite number in decimal notation. -/
def finiteOfChars? (negative : Bool) (cs : List Char) : Option Binary64 := do
  let (digits, exponent) ← Decimal.scientific? cs
  nearest? negative digits exponent

/-- A floating-point number: what is no number, the two that are infinite, and all finite ones. -/
def realOfText? (s : String) : Option Binary64 :=
  if [".nan", ".NaN", ".NAN"].contains s then some .nan
  else if [".inf", ".Inf", ".INF", "+.inf", "+.Inf", "+.INF"].contains s then some (.infinite false)
  else if ["-.inf", "-.Inf", "-.INF"].contains s then some (.infinite true)
  else
    match s.toList with
    | '-' :: cs => finiteOfChars? true cs
    | '+' :: cs => finiteOfChars? false cs
    | cs => finiteOfChars? false cs

end BuildTrial.Yaml
