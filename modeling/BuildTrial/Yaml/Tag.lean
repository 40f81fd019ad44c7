import BuildTrial.Decimal.Notation
import BuildTrial.Text.Bytes
import BuildTrial.Text.Utf8
import BuildTrial.Yaml.Token
import BuildTrial.Yaml.Source

/-!
# Names, tags and directives

What comes after an ampersand or an asterisk, an exclamation mark, or a percent sign that begins a
line. A tag is written in full between angle brackets, or as a suffix to a handle that a directive
spells out.
-/

namespace BuildTrial.Yaml

/-! ## Names of anchors -/

/-- A name that is not empty. A blank, a line break, the end or one of a few indicators follows. -/
def name? (source : Source) : Option (String × Source) :=
  let (name, rest) := source.run isNameChar
  if !name.isEmpty && (rest.endsWord || rest.isAt ['?', ':', ',', ']', '\x7d', '%', '@', '`']) then
    some (String.ofList name, rest)
  else none

/-! ## Tags -/

/-- Characters of a tag other than the percent sign. -/
def isTagChar (c : Char) : Bool := isNameChar c || ";/?:@&=+$.!~*'()".toList.contains c

/-- Between angle brackets a tag may also hold characters that separate items of a list. -/
def isFullTagChar (c : Char) : Bool := isTagChar c || [',', '[', ']'].contains c

/-- How many bytes follow the first byte of a character. -/
def trailingBytes? (b : UInt8) : Option Nat :=
  if b < 0x80 then some 0
  else if 0xc0 ≤ b && b < 0xe0 then some 1
  else if 0xe0 ≤ b && b < 0xf0 then some 2
  else if 0xf0 ≤ b && b < 0xf8 then some 3
  else none

/-- How many bytes are missing of a character after one more of its bytes. -/
def missingAfter? (missing : Nat) (b : UInt8) : Option Nat :=
  if missing = 0 then trailingBytes? b
  else if 0x80 ≤ b && b < 0xc0 then some (missing - 1)
  else none

/-- The bytes of the longest run of characters of a kind and of bytes written as a percent sign with
two digits. All bytes of one character have to be there. -/
def tagBytesFrom? (isPart : Char → Bool) (missing : Nat) (read : List UInt8) :
    Source → Option (List UInt8 × Source)
  | [] => if missing = 0 then some (read.reverse, []) else none
  | g :: rest =>
    if g.char = '%' then
      match rest with
      | high :: low :: rest =>
        match Text.hexDigit? high.char, Text.hexDigit? low.char with
        | some high, some low =>
          let b := UInt8.ofNat (16 * high + low)
          match missingAfter? missing b with
          | some missing => tagBytesFrom? isPart missing (b :: read) rest
          | none => none
        | _, _ => none
      | _ => none
    else if missing ≠ 0 then none
    else if isPart g.char then tagBytesFrom? isPart 0 (UInt8.ofNat g.char.toNat :: read) rest
    else some (read.reverse, g :: rest)

/-- The text of a part of a tag, which a zero byte ends. -/
def tagText (bytes : List UInt8) : TagText := (Text.ofUtf8 (bytes.takeWhile (· != 0))).toOption

/-- The text of the longest run of tag characters, which is not empty. -/
def tagPart? (isPart : Char → Bool) (source : Source) : Option (TagText × Source) := do
  let (bytes, rest) ← tagBytesFrom? isPart 0 [] source
  if bytes.isEmpty then none else return (tagText bytes, rest)

/-- An exclamation mark and a name, with a second exclamation mark if one follows; also tells
whether it does. The first mark is already read. -/
def handle (source : Source) : String × Bool × Source :=
  let (name, rest) := source.run isNameChar
  match rest with
  | g :: rest =>
    if g.char = '!' then (String.ofList ('!' :: name ++ ['!']), true, rest)
    else (String.ofList ('!' :: name), false, g :: rest)
  | [] => (String.ofList ('!' :: name), false, [])

/-- A tag without brackets. What has no second exclamation mark is the suffix of the handle with one
mark only; if that is empty, the tag is the mark itself. -/
def shortTag? (source : Source) : Option (Token × Source) :=
  match handle source with
  | (handle, true, rest) =>
    (tagPart? isTagChar rest).map fun (suffix, rest) => (.tag handle suffix, rest)
  | (_, false, _) =>
    (tagBytesFrom? isTagChar 0 [] source).map fun (bytes, rest) =>
      let suffix := tagText bytes
      (if suffix = some "" then .tag "" "!" else .tag "!" suffix, rest)

/-- A tag between angle brackets, the first of which is already read. -/
def fullTag? (source : Source) : Option (Token × Source) := do
  let (text, rest) ← tagPart? isFullTagChar source
  if rest.isAt ['>'] then return (.tag "" text, rest.drop 1) else none

/-- A tag whose exclamation mark is already read. A blank, a line break or the end follows, or a
comma in brackets. -/
def tag? (flow : Bool) (source : Source) : Option (Token × Source) := do
  let (token, rest) ← if source.isAt ['<'] then fullTag? (source.drop 1) else shortTag? source
  if rest.endsWord || (flow && rest.isAt [',']) then return (token, rest) else none

/-! ## Directives -/

/-- A number of up to nine digits. -/
def versionPart? (source : Source) : Option (Nat × Source) :=
  let (digits, rest) := source.run Char.isDigit
  if digits.isEmpty || 9 < digits.length then none
  else some (Decimal.ofDigits digits, rest)

def version? (source : Source) : Option (Token × Source) := do
  let (major, rest) ← versionPart? source.skipBlanks
  if rest.isAt ['.'] then
    let (minor, rest) ← versionPart? (rest.drop 1)
    return (.version major minor, rest)
  else none

/-- A handle and what it stands for. -/
def tagHandle? (source : Source) : Option (Token × Source) := do
  let source := source.skipBlanks
  if !source.isAt ['!'] then none
  else
    let (handle, closed, rest) := handle (source.drop 1)
    if !closed && handle ≠ "!" then none
    else if !rest.isAt [' ', '\t'] then none
    else
      let (expansion, rest) ← tagPart? isFullTagChar rest.skipBlanks
      if rest.endsWord then return (.tagHandle handle expansion, rest) else none

/-- A directive whose percent sign is already read, with the line that it stands on. -/
def directive? (source : Source) : Option (Token × Source) := do
  let (name, rest) := source.run isNameChar
  if !rest.endsWord then none
  else
    let (token, rest) ←
      if name = "YAML".toList then version? rest
      else if name = "TAG".toList then tagHandle? rest
      else none
    let rest ← rest.lineEnd?
    return (token, rest.drop 1)

end BuildTrial.Yaml
