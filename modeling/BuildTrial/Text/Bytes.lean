import BuildTrial.Text.Utf8

/-!
# Bytes in text

How bytes are written where only text can stand: in hexadecimal, in base64, and in the queries of
requests.
-/

namespace BuildTrial.Text

/-! ## Hexadecimal -/

def hexDigits : List Char := "0123456789abcdef".toList

/-- The two digits of a byte. -/
def hexByte (b : UInt8) : List Char :=
  [hexDigits.getD (b.toNat / 16) '0', hexDigits.getD (b.toNat % 16) '0']

def hexOfBytes (bytes : List UInt8) : String := String.ofList (bytes.flatMap hexByte)

/-- The value of a digit of either case. -/
def hexDigit? (c : Char) : Option Nat := hexDigits.idxOf? c.toLower

/-- The bytes with the given digits, if their number is even. -/
def bytesOfHex? : List Char → Option (List UInt8)
  | [] => some []
  | [_] => none
  | high :: low :: rest => do
    let high ← hexDigit? high
    let low ← hexDigit? low
    return UInt8.ofNat (16 * high + low) :: (← bytesOfHex? rest)

/-! ## Base64

Three bytes are four digits of six bits each. A last group of one or two bytes is filled up with
zero bits and padded with `=`; reading insists on the padding and on the zeros, so a list of bytes
has one written form only. -/

namespace Base64

/-- The digits, each at the place of its value. -/
def digits : List Char :=
  "ABCDEFGHIJKLMNOPQRSTUVWXYZabcdefghijklmnopqrstuvwxyz0123456789+/".toList

def digit (value : Nat) : Char := digits.getD value 'A'

def value? (c : Char) : Option Nat := digits.idxOf? c

def encode : List UInt8 → List Char
  | [] => []
  | [a] => [digit (a.toNat / 4), digit (a.toNat % 4 * 16), '=', '=']
  | [a, b] =>
    [digit (a.toNat / 4), digit (a.toNat % 4 * 16 + b.toNat / 16), digit (b.toNat % 16 * 4), '=']
  | a :: b :: c :: rest =>
    digit (a.toNat / 4) :: digit (a.toNat % 4 * 16 + b.toNat / 16) ::
      digit (b.toNat % 16 * 4 + c.toNat / 64) :: digit (c.toNat % 64) :: encode rest

/-- The bytes with the given written form, if there are any. -/
def decode? : List Char → Option (List UInt8)
  | [] => some []
  | [w, x, '=', '='] => do
    let w ← value? w
    let x ← value? x
    -- the bits that are in no byte have to be zero
    guard (x % 16 = 0)
    return [UInt8.ofNat (w * 4 + x / 16)]
  | [w, x, y, '='] => do
    let w ← value? w
    let x ← value? x
    let y ← value? y
    guard (y % 4 = 0)
    return [UInt8.ofNat (w * 4 + x / 16), UInt8.ofNat (x % 16 * 16 + y / 4)]
  | w :: x :: y :: z :: rest => do
    let w ← value? w
    let x ← value? x
    let y ← value? y
    let z ← value? z
    return UInt8.ofNat (w * 4 + x / 16) :: UInt8.ofNat (x % 16 * 16 + y / 4) ::
      UInt8.ofNat (y % 4 * 64 + z) :: (← decode? rest)
  | _ => none

/-- The padding is no digit. -/
theorem value?_pad : value? '=' = none := by decide

theorem value?_digit : ∀ n < 64, value? (digit n) = some n := by decide

end Base64

/-! ## Queries

Letters, digits and `*-._` stand as they are, a blank as a plus sign, and every other byte by its
number. -/

/-- Digits of upper case, for bytes in queries. -/
def upperHexDigits : List Char := "0123456789ABCDEF".toList

def formByte (b : UInt8) : List Char :=
  let c := Char.ofNat b.toNat
  if b < 0x80 && (c.isAlphanum || c = '*' || c = '-' || c = '.' || c = '_') then [c]
  else if c = ' ' then ['+']
  else ['%', upperHexDigits.getD (b.toNat / 16) '0', upperHexDigits.getD (b.toNat % 16) '0']

def formEncoded (s : String) : String := String.ofList ((utf8Bytes s).flatMap formByte)

/-- Pairs of a name and a value, each led in by an ampersand. -/
def formPairs (pairs : List (String × String)) : String :=
  String.join (pairs.map fun (name, value) => "&" ++ formEncoded name ++ "=" ++ formEncoded value)

end BuildTrial.Text
