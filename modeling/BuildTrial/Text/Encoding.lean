import BuildTrial.Text.Utf8

/-!
# Texts that say how they are encoded

A text may begin with a mark that tells its encoding; without one it is UTF-8. The mark of UTF-16 tells
which of the two bytes of a unit comes first.
-/

namespace BuildTrial.Text

/-! ## UTF-16

Two bytes are one unit. A unit is a character, unless it is half of one: a high half has to be
followed by a low half, and a low half has to follow a high one. -/

namespace Utf16

/-- Which of the two bytes of a unit comes first. -/
inductive ByteOrder where
  | lowFirst
  | highFirst
deriving DecidableEq, Repr

def ByteOrder.unit (order : ByteOrder) (first second : UInt8) : Nat :=
  match order with
  | .lowFirst => first.toNat + 256 * second.toNat
  | .highFirst => 256 * first.toNat + second.toNat

/-- The units of bytes, of which there is an even number. -/
def units? (order : ByteOrder) : List UInt8 → Option (List Nat)
  | [] => some []
  | [_] => none
  | first :: second :: rest => (units? order rest).map (order.unit first second :: ·)

def isHighHalf (unit : Nat) : Bool := 0xD800 ≤ unit && unit < 0xDC00

def isLowHalf (unit : Nat) : Bool := 0xDC00 ≤ unit && unit < 0xE000

/-- The character of two halves. -/
def joined (high low : Nat) : Char :=
  Char.ofNat (0x10000 + 0x400 * (high - 0xD800) + (low - 0xDC00))

/-- The characters of units, if every half has its other half. -/
def ofUnits? : List Nat → Option (List Char)
  | [] => some []
  | [unit] => if isHighHalf unit || isLowHalf unit then none else some [Char.ofNat unit]
  | unit :: next :: rest =>
    if isHighHalf unit then
      if isLowHalf next then (ofUnits? rest).map (joined unit next :: ·) else none
    else if isLowHalf unit then none
    else (ofUnits? (next :: rest)).map (Char.ofNat unit :: ·)

end Utf16

/-! ## Marks -/

/-- How a text is encoded. -/
inductive Encoding where
  | utf8
  /-- UTF-8 after its mark. -/
  | markedUtf8
  | utf16 (order : Utf16.ByteOrder)
deriving DecidableEq, Repr

def Encoding.name : Encoding → String
  | .utf8 => "UTF-8"
  | .markedUtf8 => "UTF-8 BOM"
  | .utf16 .lowFirst => "UTF-16 LE"
  | .utf16 .highFirst => "UTF-16 BE"

/-- The encoding of bytes, and the bytes after the mark that tells it. -/
def Encoding.split : List UInt8 → Encoding × List UInt8
  | 0xFF :: 0xFE :: rest => (.utf16 .lowFirst, rest)
  | 0xFE :: 0xFF :: rest => (.utf16 .highFirst, rest)
  | 0xEF :: 0xBB :: 0xBF :: rest => (.markedUtf8, rest)
  | bytes => (.utf8, bytes)

/-- Why bytes are no text. -/
inductive EncodingFault where
  | invalid (encoding : Encoding)
  /-- The bytes end in the middle of a unit of two. -/
  | halfUnit
deriving DecidableEq, Repr

/-- The text of bytes in an encoding. -/
def Encoding.decode (encoding : Encoding) (bytes : List UInt8) : Except EncodingFault String :=
  match encoding with
  | .utf16 order =>
    match Utf16.units? order bytes with
    | none => .error .halfUnit
    | some units =>
      match Utf16.ofUnits? units with
      | some cs => .ok (String.ofList cs)
      | none => .error (.invalid encoding)
  | encoding => (ofUtf8 bytes).mapError fun _ => .invalid encoding

/-- The text of bytes that may begin with a mark. -/
def decode (bytes : List UInt8) : Except EncodingFault String :=
  let (encoding, bytes) := Encoding.split bytes
  encoding.decode bytes

end BuildTrial.Text
