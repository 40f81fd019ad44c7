import BuildTrial.Text.Bytes
import BuildTrial.Yaml.Source

/-!
# Plain and quoted scalars

Both run over line ends. What stands between two of their words, blanks and line breaks, is a gap:
without a break it is kept; a single plain break becomes a blank; of several the first is dropped;
and blanks around breaks do not count.
-/

namespace BuildTrial.Yaml

/-- Blanks and line breaks between two words. -/
structure Gap where
  /-- Whether a backslash took away the first line break. -/
  escaped : Bool := false
  /-- The characters, last first. -/
  run : List Char := []
deriving DecidableEq, Repr

namespace Gap

def push (c : Char) (gap : Gap) : Gap := { gap with run := c :: gap.run }

def hasBreak (gap : Gap) : Bool := gap.escaped || gap.run.any isBreak

/-- What a gap adds to the text. -/
def text (gap : Gap) : List Char :=
  let breaks := gap.run.reverse.filter isBreak
  if gap.escaped then breaks
  else match breaks with
    | [] => gap.run.reverse
    | ['\n'] => [' ']
    | '\n' :: more => more
    | breaks => breaks

/-- Add the text of a gap to a text that is held last character first. -/
def after (gap : Gap) (text : List Char) : List Char := gap.text.reverseAux text

end Gap

/-! ## Plain scalars -/

/-- Where a plain scalar stands. -/
structure PlainContext where
  /-- In brackets or braces. -/
  flow : Bool
  /-- The least column of the lines after its first, outside brackets. -/
  indent : Nat

namespace PlainContext

/-- Whether the scalar cannot go on after a gap. -/
def stopsAt (context : PlainContext) (g : Glyph) (rest : Source) : Bool :=
  Source.isAtDocumentMarker (g :: rest) || g.char = '#' ||
    (!context.flow && g.column < context.indent)

/-- Whether a character is no part of the scalar. -/
def endsAt (context : PlainContext) (g : Glyph) (rest : Source) : Bool :=
  (g.char = ':' && rest.endsWord) ||
    (context.flow && Source.isAt [',', '[', ']', '\x7b', '\x7d'] [g])

/-- A colon in brackets that neither ends the scalar nor goes on with it. -/
def isStrayColon (context : PlainContext) (g : Glyph) (rest : Source) : Bool :=
  context.flow && g.char = ':' && rest.isAt [',', '?', '[', ']', '\x7b', '\x7d']

end PlainContext

/-- The text of a plain scalar, whether a line ended after it, and what follows the gap after it. -/
def plainFrom? (context : PlainContext) (text : List Char) (gap : Gap) :
    Source → Option (String × Bool × Source)
  | [] => some (String.ofList text.reverse, gap.hasBreak, [])
  | g :: rest =>
    if isSpace g.char then
      if g.char = '\t' ∧ gap.hasBreak ∧ g.column < context.indent then none
      else plainFrom? context text (gap.push g.char) rest
    else if !gap.run.isEmpty && context.stopsAt g rest then
      some (String.ofList text.reverse, gap.hasBreak, g :: rest)
    else if context.isStrayColon g rest then none
    else if context.endsAt g rest then
      some (String.ofList text.reverse, gap.hasBreak, g :: rest)
    else plainFrom? context (g.char :: gap.after text) {} rest

def plain? (context : PlainContext) (source : Source) : Option (String × Bool × Source) :=
  plainFrom? context [] {} source

/-! ## Quoted scalars -/

/-- The rest of a scalar in single quotes, in which a quote is written twice. -/
def singleQuotedFrom? (text : List Char) (gap : Gap) : Source → Option (String × Source)
  | [] => none
  | g :: rest =>
    if isSpace g.char then singleQuotedFrom? text (gap.push g.char) rest
    -- a document may end anywhere, but not within a scalar
    else if Source.isAtDocumentMarker (g :: rest) then none
    else if g.char = '\'' then
      match rest with
      | h :: rest =>
        if h.char = '\'' then singleQuotedFrom? ('\'' :: gap.after text) {} rest
        else some (String.ofList (gap.after text).reverse, h :: rest)
      | [] => some (String.ofList (gap.after text).reverse, [])
    else singleQuotedFrom? (g.char :: gap.after text) {} rest

/-- What a letter after a backslash begins. -/
inductive Escape where
  | char (c : Char)
  /-- A code point of so many digits. -/
  | code (digits : Nat)

def escape? (c : Char) : Option Escape :=
  match c with
  | '0' => some (.char (Char.ofNat 0))
  | 'a' => some (.char (Char.ofNat 7))
  | 'b' => some (.char (Char.ofNat 8))
  | 't' => some (.char '\t')
  | '\t' => some (.char '\t')
  | 'n' => some (.char '\n')
  | 'v' => some (.char (Char.ofNat 11))
  | 'f' => some (.char (Char.ofNat 12))
  | 'r' => some (.char '\r')
  | 'e' => some (.char (Char.ofNat 27))
  | ' ' => some (.char ' ')
  | '"' => some (.char '"')
  | '/' => some (.char '/')
  | '\\' => some (.char '\\')
  | 'N' => some (.char (Char.ofNat 0x85))
  | '_' => some (.char (Char.ofNat 0xa0))
  | 'L' => some (.char (Char.ofNat 0x2028))
  | 'P' => some (.char (Char.ofNat 0x2029))
  | 'x' => some (.code 2)
  | 'u' => some (.code 4)
  | 'U' => some (.code 8)
  | _ => none

/-- The character with a code point, if there is one. -/
def codePoint? (n : Nat) : Option Char := if n.isValidChar then some (Char.ofNat n) else none

/-- Where in a scalar in double quotes the next character falls. -/
inductive QuotedState where
  | text
  /-- After a backslash. -/
  | escape
  /-- In a code point, with digits missing. -/
  | code (missing value : Nat)

/-- The rest of a scalar in double quotes. -/
def doubleQuotedFrom? (state : QuotedState) (text : List Char) (gap : Gap) :
    Source → Option (String × Source)
  | [] => none
  | g :: rest =>
    match state with
    | .text =>
      if isSpace g.char then doubleQuotedFrom? .text text (gap.push g.char) rest
      else if Source.isAtDocumentMarker (g :: rest) then none
      else if g.char = '"' then some (String.ofList (gap.after text).reverse, rest)
      else if g.char = '\\' then doubleQuotedFrom? .escape (gap.after text) {} rest
      else doubleQuotedFrom? .text (g.char :: gap.after text) {} rest
    | .escape =>
      if isBreak g.char then doubleQuotedFrom? .text text { escaped := true } rest
      else match escape? g.char with
        | some (.char c) => doubleQuotedFrom? .text (c :: text) {} rest
        | some (.code digits) => doubleQuotedFrom? (.code digits 0) text {} rest
        | none => none
    | .code missing value =>
      match Text.hexDigit? g.char with
      | some digit =>
        if missing = 1 then
          match codePoint? (16 * value + digit) with
          | some c => doubleQuotedFrom? .text (c :: text) {} rest
          | none => none
        else doubleQuotedFrom? (.code (missing - 1) (16 * value + digit)) text {} rest
      | none => none

/-- The text after an opening quote, and what follows the closing one. -/
def quoted? (quote : Char) (source : Source) : Option (String × Source) :=
  if quote = '"' then doubleQuotedFrom? .text [] {} source else singleQuotedFrom? [] {} source

end BuildTrial.Yaml
