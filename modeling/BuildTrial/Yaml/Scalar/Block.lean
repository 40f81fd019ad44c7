import BuildTrial.Yaml.Source

/-!
# Block scalars

A header, then lines that are indented alike. In a literal scalar every line ends with its break; in
a folded one a break between two lines that do not begin with a blank becomes a blank. The breaks at
the end are kept, clipped to one, or dropped.
-/

namespace BuildTrial.Yaml.Block

/-- What happens to the breaks at the end. -/
inductive Chomping where
  | strip
  | clip
  | keep
deriving DecidableEq, Repr

/-- What stands after the bar or the greater-than sign. -/
structure Header where
  chomping : Chomping := .clip
  /-- The indentation of the lines beyond that of their surroundings, if it is given. -/
  increment : Option Nat := none
deriving DecidableEq, Repr

def chomping? (source : Source) : Option (Chomping × Source) :=
  match source with
  | g :: rest =>
    if g.char = '+' then some (.keep, rest)
    else if g.char = '-' then some (.strip, rest)
    else none
  | [] => none

/-- A digit from 1 to 9 if there is a digit; fails at a zero. -/
def increment? (source : Source) : Option (Option Nat × Source) :=
  match source with
  | g :: rest =>
    if g.char = '0' then none
    else if g.char.isDigit then some (some (g.char.toNat - 48), rest)
    else some (none, source)
  | [] => some (none, [])

/-- The header and the lines after it: both indicators may be given, in either order. -/
def header? (source : Source) : Option (Header × Source) := do
  let (header, source) ←
    match chomping? source with
    | some (chomping, source) => do
      let (increment, source) ← increment? source
      pure (({ chomping, increment } : Header), source)
    | none => do
      let (increment, source) ← increment? source
      match increment, chomping? source with
      | some _, some (chomping, source) => pure ({ chomping, increment }, source)
      | _, _ => pure ({ increment }, source)
  let source ← source.lineEnd?
  return (header, source.drop 1)

/-- What was read of the lines. -/
structure Lines where
  /-- The text up to the end of the last line, last character first. -/
  text : List Char := []
  /-- The break that ended it. -/
  lastBreak : List Char := []
  /-- The empty lines after it, last break first. -/
  emptyLines : List Char := []
  /-- Whether the last line began with a blank. -/
  blank : Bool := false

namespace Lines

/-- Begin a line with the given character. -/
def start (folded : Bool) (c : Char) (lines : Lines) : Lines :=
  let text :=
    if folded && lines.lastBreak = ['\n'] && !lines.blank && !isBlank c then
      if lines.emptyLines.isEmpty then ' ' :: lines.text else lines.emptyLines ++ lines.text
    else lines.emptyLines ++ (lines.lastBreak ++ lines.text)
  { text := c :: text, blank := isBlank c }

def finish (chomping : Chomping) (lines : Lines) : String :=
  let text := match chomping with
    | .strip => lines.text
    | .clip => lines.lastBreak ++ lines.text
    | .keep => lines.emptyLines ++ (lines.lastBreak ++ lines.text)
  String.ofList text.reverse

end Lines

/-- Read lines with the given indentation; `inLine` tells whether one has begun. Stops at a line
that is indented less, and fails at a tab that stands for indentation. -/
def linesFrom? (folded : Bool) (indent : Nat) (inLine : Bool) (lines : Lines) :
    Source → Option (Lines × Source)
  | [] => some (lines, [])
  | g :: rest =>
    if inLine then
      if isBreak g.char then
        linesFrom? folded indent false { lines with lastBreak := [g.char] } rest
      else linesFrom? folded indent true { lines with text := g.char :: lines.text } rest
    -- an empty line need not be indented
    else if isBreak g.char then
      linesFrom? folded indent false
        { lines with emptyLines := g.char :: lines.emptyLines } rest
    else if g.column < indent then
      if g.char = ' ' then linesFrom? folded indent false lines rest
      else if g.char = '\t' then none
      else some (lines, g :: rest)
    else linesFrom? folded indent true (lines.start folded g.char) rest

/-- The indentation that the first lines show: the deepest of the empty ones and the first other. It
is at least `least`, and no tab may follow it. -/
def indent? (least : Nat) (source : Source) : Option Nat :=
  let gap := source.takeWhile fun g => g.char = ' ' || isBreak g.char
  let next := (source.drop gap.length).head?
  if next.any (·.char = '\t') then none
  else
    let ends := (gap.filter (isBreak ·.char)).map (·.column) ++ (next.map (·.column)).toList
    some (ends.foldl max (max least 1))

/-- The text of a block scalar from its header on, and what follows it. Its surroundings have the
indentation `parent`, if they are indented at all. -/
def scalar? (folded : Bool) (parent : Option Nat) (source : Source) :
    Option (String × Source) := do
  let (header, source) ← header? source
  let indent ← match header.increment with
    | some increment => pure (parent.getD 0 + increment)
    | none => indent? ((parent.map (· + 1)).getD 0) source
  let (lines, source) ← linesFrom? folded indent false {} source
  return (lines.finish header.chomping, source)

end BuildTrial.Yaml.Block
