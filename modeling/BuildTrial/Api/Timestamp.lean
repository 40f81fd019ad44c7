import BuildTrial.Decimal.Notation
import BuildTrial.Duration
import BuildTrial.Text.Class

/-!
# Points in time, as objects of the cluster carry them

A date and a time of day with an offset from universal time. Reading is lenient about blanks and the
number of digits; the written form is always in universal time, to the second.
-/

namespace BuildTrial.Api

/-- A civil date and time of day in universal time. -/
structure Timestamp where
  /-- Days since the first of March of the year zero. -/
  day : Int
  /-- Seconds of the day. -/
  second : Nat
  nanos : Nat
  /-- Whether a leap second was inserted at this point. -/
  leap : Bool := false
deriving DecidableEq, Repr

namespace Timestamp

/-- Days from the first of March of the year zero to the given date. Years start in March here, so
that the day a leap year adds is the last one of its year. -/
def dayOfDate (year : Int) (month day : Nat) : Int :=
  let year := if month ≤ 2 then year - 1 else year
  let month := if month ≤ 2 then month + 9 else month - 3
  365 * year + year.fdiv 4 - year.fdiv 100 + year.fdiv 400 + ((153 * month + 2) / 5 : Nat) + day - 1

/-- The date that is `day` days after the first of March of the year zero. -/
def dateOfDay (day : Int) : Int × Nat × Nat :=
  let era := day.fdiv 146097
  let inEra := (day - era * 146097).toNat
  let yearOfEra := (inEra - inEra / 1460 + inEra / 36524 - inEra / 146096) / 365
  let inYear := inEra - (365 * yearOfEra + yearOfEra / 4 - yearOfEra / 100)
  let month := (5 * inYear + 2) / 153
  let dayOfMonth := inYear - (153 * month + 2) / 5 + 1
  let year := era * 400 + yearOfEra
  if month < 10 then (year, month + 3, dayOfMonth) else (year + 1, month - 9, dayOfMonth)

def isLeapYear (year : Int) : Bool := year % 4 = 0 && (year % 100 ≠ 0 || year % 400 = 0)

def daysOfMonth (year : Int) (month : Nat) : Nat :=
  if month = 2 then (if isLeapYear year then 29 else 28)
  else if month = 4 || month = 6 || month = 9 || month = 11 then 30
  else 31

/-- The first and the last year that a date can have. -/
def minYear : Int := -262143

def maxYear : Int := 262142

/-- Whether there is a day of this number. -/
def isDay (day : Int) : Bool :=
  dayOfDate minYear 1 1 ≤ day && day ≤ dayOfDate maxYear 12 31

/-! ## Reading -/

def skipBlanks (s : List Char) : List Char := s.dropWhile Text.isBlank

/-- A number of one up to `width` digits. -/
def digits? (width : Nat) (s : List Char) : Option (Nat × List Char) :=
  let digits := (s.take width).takeWhile Char.isDigit
  if digits.isEmpty then none else some (Decimal.ofDigits digits, s.drop digits.length)

/-- A number of one or two digits, after blanks. -/
def number? (s : List Char) : Option (Nat × List Char) := digits? 2 (skipBlanks s)

/-- A year, after blanks. With a sign it may have any number of digits, and four at most without. -/
def year? (s : List Char) : Option (Int × List Char) :=
  match skipBlanks s with
  | '-' :: rest => (digits? rest.length rest).map fun (year, rest) => (-(year : Int), rest)
  | '+' :: rest => (digits? rest.length rest).map fun (year, rest) => ((year : Int), rest)
  | s => (digits? 4 s).map fun (year, rest) => ((year : Int), rest)

/-- The given character, after blanks. -/
def mark? (c : Char) (s : List Char) : Option (List Char) :=
  match skipBlanks s with
  | d :: rest => if c = d then some rest else none
  | [] => none

/-- A fraction of a second, in nanoseconds. Digits beyond the ninth are dropped. -/
def fraction? (s : List Char) : Option (Nat × List Char) :=
  match s with
  | '.' :: rest =>
    let digits := rest.takeWhile Char.isDigit
    if digits.isEmpty then none
    else
      let kept := digits.take 9
      some (Decimal.ofDigits kept * 10 ^ (9 - kept.length), rest.dropWhile Char.isDigit)
  | _ => some (0, s)

def twoDigits? : List Char → Option (Nat × List Char)
  | a :: b :: rest => if a.isDigit && b.isDigit then some (Decimal.ofDigits [a, b], rest) else none
  | _ => none

/-- The direction of an offset. -/
def sign? (c : Char) : Option Int :=
  if c = '+' then some 1 else if c = '-' || c = '−' then some (-1) else none

/-- An offset from universal time in hours and minutes, as seconds. -/
def distance? : List Char → Option (Int × List Char)
  | [] => none
  | c :: rest => do
    let sign ← sign? c
    let (hours, rest) ← twoDigits? rest
    let (minutes, rest) ← twoDigits? (rest.dropWhile fun c => c = ':' || Text.isBlank c)
    guard (minutes < 60 && hours < 24)
    return (sign * (hours * 3600 + minutes * 60 : Nat), rest)

/-- An offset from universal time, in seconds. -/
def offset? (s : List Char) : Option (Int × List Char) :=
  match skipBlanks s with
  | 'Z' :: rest | 'z' :: rest => some (0, rest)
  | s =>
    if (s.take 3).map Char.toUpper = ['U', 'T', 'C'] then some (0, s.drop 3) else distance? s

/-- The point in time at a date and a time of day with an offset, if they make sense. -/
def ofParts? (year : Int) (month day hour minute second nanos : Nat) (offset : Int) :
    Option Timestamp := do
  guard (minYear ≤ year && year ≤ maxYear)
  guard (1 ≤ month && month ≤ 12 && 1 ≤ day && day ≤ daysOfMonth year month)
  guard (hour < 24 && minute < 60 && second ≤ 60)
  -- a leap second is the last second of its minute once more
  let leap := second = 60
  let seconds : Int :=
    (hour * 3600 + minute * 60 + (if leap then 59 else second) : Nat) - offset
  let universalDay := dayOfDate year month day + seconds.fdiv 86400
  guard (isDay universalDay)
  return { day := universalDay, second := (seconds.fmod 86400).toNat, nanos, leap }

def ofText? (text : String) : Option Timestamp := do
  let (year, s) ← year? text.toList
  let (month, s) ← number? (← mark? '-' s)
  let (day, s) ← number? (← mark? '-' s)
  let s ← match s with
    | c :: rest => if c = 'T' || c = 't' || c = ' ' then some rest else none
    | [] => none
  let (hour, s) ← number? s
  let (minute, s) ← number? (← mark? ':' s)
  let (second, s) ← number? (← mark? ':' s)
  let (nanos, s) ← fraction? s
  let (offset, s) ← offset? s
  guard (skipBlanks s).isEmpty
  ofParts? year month day hour minute second nanos offset

/-! ## Writing -/

def padded (width n : Nat) : String := Duration.padZeros width (toString n)

/-- A year of four digits; one outside of them has a sign. -/
def yearText (year : Int) : String :=
  if 0 ≤ year && year ≤ 9999 then padded 4 year.toNat
  else (if year < 0 then "-" else "+") ++ padded 4 year.natAbs

def text (t : Timestamp) : String :=
  let (year, month, day) := dateOfDay t.day
  let second := t.second % 60 + (if t.leap then 1 else 0)
  s!"{yearText year}-{padded 2 month}-{padded 2 day}T{padded 2 (t.second / 3600)}:" ++
    s!"{padded 2 (t.second / 60 % 60)}:{padded 2 second}Z"

end Timestamp

end BuildTrial.Api
