/-!
# The characters of a YAML stream

A stream is a list of characters that know where they stand. Line breaks are told apart only as far
as their text differs: every break that stands for a plain new line is one `'\n'`, while the line
and paragraph separators keep their own characters. A character outside the allowed ranges makes the
whole stream unreadable.
-/

namespace BuildTrial.Yaml

/-- A character and its place, all counted from zero. -/
structure Glyph where
  char : Char
  line : Nat
  column : Nat
  /-- How many bytes the line has before the character. -/
  offset : Nat
deriving DecidableEq, Repr

/-- What is still to be read of a stream. -/
abbrev Source := List Glyph

/-- Characters that a stream may contain: no controls but tab, line breaks and next line. -/
def isAllowed (c : Char) : Bool :=
  c = '\t' || c = '\n' || c = '\r' || (' ' ≤ c && c ≤ '~') || c.toNat = 0x85 ||
    (0xa0 ≤ c.toNat && c.toNat ≤ 0xd7ff) || (0xe000 ≤ c.toNat && c.toNat ≤ 0xfffd) ||
    0x10000 ≤ c.toNat

/-- The mark that a text may begin with. -/
def byteOrderMark : Char := Char.ofNat 0xfeff

/-- A carriage return, alone or with the line feed after it, and a next line are line feeds. -/
def plainBreaks : List Char → List Char
  | [] => []
  | '\r' :: '\n' :: rest => '\n' :: plainBreaks rest
  | c :: rest => (if c = '\r' ∨ c.toNat = 0x85 then '\n' else c) :: plainBreaks rest

/-- Whether a character ends a line, once breaks are plain. -/
def isBreak (c : Char) : Bool := c = '\n' || c.toNat = 0x2028 || c.toNat = 0x2029

def isBlank (c : Char) : Bool := c = ' ' || c = '\t'

/-- A blank or a line break. -/
def isSpace (c : Char) : Bool := isBlank c || isBreak c

/-- Characters of the names of anchors, directives and tag handles. -/
def isNameChar (c : Char) : Bool := c.isAlphanum || c = '_' || c = '-'

/-- The characters of a list with their places, the first of which is given. -/
def place (line column offset : Nat) : List Char → Source
  | [] => []
  | c :: rest =>
    ⟨c, line, column, offset⟩ ::
      if isBreak c then place (line + 1) 0 0 rest
      else place line (column + 1) (offset + c.utf8Size) rest

namespace Source

/-- The characters of a text, if all are allowed. -/
def ofText? (s : String) : Option Source :=
  if s.toList.all isAllowed then some (place 0 0 0 (plainBreaks s.toList)) else none

/-- Whether a word cannot go on here: at a blank, a line break or the end. -/
def endsWord : Source → Bool
  | [] => true
  | g :: _ => isSpace g.char

/-- Whether the next character is one of those given. -/
def isAt (cs : List Char) : Source → Bool
  | [] => false
  | g :: _ => cs.contains g.char

/-- Whether a line begins here with the character three times and nothing attached to it. -/
def isAtMarker (mark : Char) : Source → Bool
  | a :: b :: c :: rest =>
    a.column = 0 && a.char = mark && b.char = mark && c.char = mark && endsWord rest
  | _ => false

/-- Whether a line begins here that separates documents. -/
def isAtDocumentMarker (source : Source) : Bool :=
  isAtMarker '-' source || isAtMarker '.' source

def skipBlanks (source : Source) : Source := source.dropWhile (isBlank ·.char)

/-- The longest run of characters of a kind, and what follows it. -/
def run (kind : Char → Bool) (source : Source) : List Char × Source :=
  ((source.takeWhile (kind ·.char)).map (·.char), source.dropWhile (kind ·.char))

/-- Skip the rest of a line, which may hold only blanks and a comment. The break stays. -/
def lineEnd? (source : Source) : Option Source :=
  match skipBlanks source with
  | [] => some []
  | g :: rest =>
    if g.char = '#' then some ((g :: rest).dropWhile (!isBreak ·.char))
    else if isBreak g.char then some (g :: rest)
    else none

end Source

end BuildTrial.Yaml
