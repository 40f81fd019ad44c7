import BuildTrial.Text.Class

/-!
# Cutting and quoting texts

Prefix tests and cuts at the first occurrence of a character, stated on the list of characters; and
texts as messages show them.
-/

namespace BuildTrial.Text

/-- Whether `s` begins with `start`. -/
def startsWith (s start : String) : Bool := start.toList.isPrefixOf s.toList

/-- The parts before and after the first `separator`, if there is one. -/
def splitFirst? (separator : Char) (s : String) : Option (String × String) :=
  match s.toList.dropWhile (· != separator) with
  | [] => none
  | _ :: rest => some (String.ofList (s.toList.takeWhile (· != separator)), String.ofList rest)

/-- `s` followed by blanks up to `width` characters. -/
def padRight (width : Nat) (s : String) : String :=
  s ++ String.ofList (List.replicate (width - s.length) ' ')

theorem startsWith_iff {s start : String} : startsWith s start ↔ start.toList <+: s.toList :=
  List.isPrefixOf_iff_prefix

/-! ## Quoted texts

A text between double quotes. A quote, a backslash and the usual controls have short escapes; whatever
has no printed form of its own, or would join the character before it, is written by its code point. -/

/-- A number in lower-case hexadecimal. -/
def hex (n : Nat) : String := String.ofList (Nat.toDigits 16 n)

/-- How a character stands inside a quoted text. -/
def escape (c : Char) : String :=
  if c = '"' then "\\\""
  else if c = '\\' then "\\\\"
  else if c = '\n' then "\\n"
  else if c = '\r' then "\\r"
  else if c = '\t' then "\\t"
  else if c.toNat = 0 then "\\0"
  else if isPrintable c && !isExtending c then c.toString
  else "\\u\x7b" ++ hex c.toNat ++ "\x7d"

/-- A text in double quotes. -/
def quoted (s : String) : String := "\"" ++ String.join (s.toList.map escape) ++ "\""

/-- A list of texts in brackets. -/
def quotedList (items : List String) : String :=
  "[" ++ ", ".intercalate (items.map quoted) ++ "]"

end BuildTrial.Text
