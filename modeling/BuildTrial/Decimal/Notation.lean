/-!
# Reading decimal notation

Digits stand for a natural number. A number in scientific notation is one with an exponent behind
it: the letter `e` in either case, perhaps a sign, and digits.
-/

namespace BuildTrial.Decimal

def ofDigits (digits : List Char) : Nat := digits.foldl (fun n c => 10 * n + (c.toNat - 48)) 0

/-- Digits up to the end of a text, of which there is at least one. -/
def digits? (cs : List Char) : Option Nat :=
  if cs.isEmpty || !cs.all Char.isDigit then none else some (ofDigits cs)

/-- The exponent that ends a number, if there is nothing else. -/
def exponent? : List Char → Option Int
  | [] => some 0
  | c :: rest =>
    if c = 'e' ∨ c = 'E' then
      match rest with
      | '+' :: rest => (digits? rest).map Int.ofNat
      | '-' :: rest => (digits? rest).map fun n => -Int.ofNat n
      | rest => (digits? rest).map Int.ofNat
    else none

/-- The fraction at the front of a text, without its point, and the rest. -/
def splitFraction : List Char → List Char × List Char
  | '.' :: rest => (rest.takeWhile Char.isDigit, rest.dropWhile Char.isDigit)
  | rest => ([], rest)

/-- All digits of a number without a sign, and the power of ten that the last one counts. There is
at least one digit, before or after the point. -/
def scientific? (cs : List Char) : Option (List Char × Int) := do
  let (fraction, rest) := splitFraction (cs.dropWhile Char.isDigit)
  let digits := cs.takeWhile Char.isDigit ++ fraction
  let exponent ← exponent? rest
  if digits.isEmpty then none else return (digits, exponent - fraction.length)

end BuildTrial.Decimal
