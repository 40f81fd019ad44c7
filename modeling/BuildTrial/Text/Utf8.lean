/-!
# Text from bytes

Reading UTF-8. Bytes that are no text have a first fault: the place up to which they are text, and
how many bytes from there on are certainly wrong; if the bytes merely stop in the middle of a
character, that is left open.
-/

namespace BuildTrial.Text

/-- Where bytes stop being text. -/
structure Utf8Fault where
  index : Nat
  /-- The number of bytes that cannot start any character; unknown at the end of the bytes. -/
  length : Option Nat
deriving DecidableEq, Repr

def Utf8Fault.message (fault : Utf8Fault) : String :=
  match fault.length with
  | some n => s!"invalid utf-8 sequence of {n} bytes from index {fault.index}"
  | none => s!"incomplete utf-8 byte sequence from index {fault.index}"

/-- The number of bytes of a character that starts with `b`, with the bounds of its second byte. A
second byte out of bounds would make the character too long for its code point, a surrogate, or one
beyond the last. -/
def utf8Shape? (b : UInt8) : Option (Nat × UInt8 × UInt8) :=
  if b < 0x80 then some (1, 0x80, 0xBF)
  else if b < 0xC2 then none
  else if b < 0xE0 then some (2, 0x80, 0xBF)
  else if b = 0xE0 then some (3, 0xA0, 0xBF)
  else if b = 0xED then some (3, 0x80, 0x9F)
  else if b < 0xF0 then some (3, 0x80, 0xBF)
  else if b = 0xF0 then some (4, 0x90, 0xBF)
  else if b < 0xF4 then some (4, 0x80, 0xBF)
  else if b = 0xF4 then some (4, 0x80, 0x8F)
  else none

def isContinuation (b : UInt8) : Bool := 0x80 ≤ b && b ≤ 0xBF

/-- How many of the first `wanted` bytes are continuations. -/
def continuations : (wanted : Nat) → List UInt8 → Nat
  | 0, _ => 0
  | _, [] => 0
  | wanted + 1, b :: bytes => if isContinuation b then continuations wanted bytes + 1 else 0

/-- The fault at a character that starts with `b` and should have `width` bytes, or none. -/
def faultAt? (index width : Nat) (low high : UInt8) (rest : List UInt8) : Option Utf8Fault :=
  if width = 1 then none
  else match rest with
    | [] => some ⟨index, none⟩
    | second :: rest =>
      if second < low || high < second then some ⟨index, some 1⟩
      else
        let good := continuations (width - 2) rest
        if good = width - 2 then none
        else some ⟨index, if rest.length ≤ good then none else some (good + 2)⟩

/-- The first fault of bytes of which `skip` belong to a character that was already looked at. -/
def faultFrom? (index : Nat) : (skip : Nat) → List UInt8 → Option Utf8Fault
  | _, [] => none
  | skip + 1, _ :: rest => faultFrom? (index + 1) skip rest
  | 0, b :: rest =>
    match utf8Shape? b with
    | none => some ⟨index, some 1⟩
    | some (width, low, high) =>
      match faultAt? index width low high rest with
      | some fault => some fault
      | none => faultFrom? (index + 1) (width - 1) rest

/-- The text that the bytes encode, or their first fault. -/
def ofUtf8 (bytes : List UInt8) : Except Utf8Fault String :=
  match faultFrom? 0 0 bytes with
  | some fault => .error fault
  | none => .ok ((String.fromUTF8? ⟨bytes.toArray⟩).getD "")

/-- The character at the start of bytes, with the number of its bytes. -/
def leadingChar? (bytes : List UInt8) : Option (Char × Nat) :=
  match bytes with
  | [] => none
  | b :: _ => do
    let (width, _, _) ← utf8Shape? b
    let text ← (ofUtf8 (bytes.take width)).toOption
    return (← text.toList.head?, width)

/-- The characters that bytes encode, of which `skip` bytes belong to one that is already read; a
byte that encodes none stands for itself. -/
def looseCharsFrom : (skip : Nat) → List UInt8 → List (Option Char)
  | _, [] => []
  | skip + 1, _ :: rest => looseCharsFrom skip rest
  | 0, b :: rest =>
    match leadingChar? (b :: rest) with
    | some (c, width) => some c :: looseCharsFrom (width - 1) rest
    | none => none :: looseCharsFrom 0 rest

/-- The characters that bytes encode, and nothing for each byte that encodes none. -/
def looseChars (bytes : List UInt8) : List (Option Char) := looseCharsFrom 0 bytes

def utf8Bytes (s : String) : List UInt8 := s.toList.flatMap String.utf8EncodeChar

end BuildTrial.Text
