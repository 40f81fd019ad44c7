import BuildTrial.Yaml.Scalar.Block
import BuildTrial.Yaml.Scalar.Flow
import BuildTrial.Yaml.Tag

/-!
# Layout

The tokens of a stream. Outside brackets the columns of the first characters of lines decide where
block collections begin and end. Whether a node is a key shows only at the colon after it, so the
place of a node that may be one is kept, and the tokens that begin a key are put there later.
-/

namespace BuildTrial.Yaml

/-- A node that may turn out to be a key. -/
structure KeyCandidate where
  /-- How many tokens are before it. -/
  place : Nat
  line : Nat
  column : Nat
  /-- How many bytes the line has before it. -/
  offset : Nat
  /-- Whether nothing else can stand here, since it has the column of the collection around it. -/
  required : Bool
deriving DecidableEq, Repr

namespace KeyCandidate

/-- A key and its colon stand on one line, at most so many bytes apart. -/
def maxLength : Nat := 1024

/-- Whether a colon at `g` would come too late. -/
def isStale (candidate : KeyCandidate) (g : Glyph) : Bool :=
  candidate.line < g.line || candidate.offset + maxLength < g.offset

end KeyCandidate

/-- How far a stream is read. -/
structure Layout where
  source : Source
  tokens : Array Token := #[]
  /-- The columns of the open block collections, innermost first. -/
  columns : List Nat := []
  /-- Whether a key may begin here. -/
  keyAllowed : Bool := true
  /-- The last node that may be a key in the innermost brackets. -/
  candidate : Option KeyCandidate := none
  /-- The same for what is around them, innermost first. -/
  outer : List (Option KeyCandidate) := []

namespace Layout

/-- Whether brackets are open. -/
def inFlow (l : Layout) : Bool := !l.outer.isEmpty

def push (token : Token) (l : Layout) : Layout := { l with tokens := l.tokens.push token }

/-- Whether a column is to the right of the innermost block collection. -/
def isDeeper (column : Nat) (l : Layout) : Bool := l.columns.head?.all (· < column)

/-- The least column of what is inside the innermost block collection. -/
def nextColumn (l : Layout) : Nat := (l.columns.head?.map (· + 1)).getD 0

/-- End the block collections with columns to the right of the given one. -/
def closeTo (column : Nat) (l : Layout) : Layout :=
  let closed := (l.columns.takeWhile (column < ·)).length
  { l with
    columns := l.columns.drop closed
    tokens := l.tokens ++ Array.replicate closed .blockEnd }

/-- Outside brackets, end what is indented more than the given column. -/
def unindent (column : Nat) (l : Layout) : Layout := if l.inFlow then l else l.closeTo column

/-- Outside brackets, end all block collections. -/
def unindentAll (l : Layout) : Layout :=
  if l.inFlow then l
  else
    { l with columns := [], tokens := l.tokens ++ Array.replicate l.columns.length .blockEnd }

/-- Begin a block collection before the token at `place`, if its column is deeper. -/
def indentAt (place column : Nat) (token : Token) (l : Layout) : Layout :=
  if !l.inFlow && l.isDeeper column then
    { l with
      columns := column :: l.columns
      tokens := l.tokens.insertIdxIfInBounds place token }
  else l

/-- Begin a block collection here. -/
def indent (column : Nat) (token : Token) (l : Layout) : Layout :=
  l.indentAt l.tokens.size column token

/-! ## Candidates for keys -/

/-- Forget a candidate, which must not have been required. -/
def withoutCandidate? (l : Layout) : Option Layout :=
  if l.candidate.any (·.required) then none else some { l with candidate := none }

/-- The node that begins at `g` may be a key if keys are allowed here. -/
def withCandidate? (g : Glyph) (l : Layout) : Option Layout :=
  if l.keyAllowed then
    l.withoutCandidate?.map fun l =>
      { l with
        candidate := some
          { place := l.tokens.size
            line := g.line
            column := g.column
            offset := g.offset
            required := !l.inFlow && l.columns.head? = some g.column } }
  else some l

/-- A candidate that can still become a key at `g`; fails if it was required and cannot. -/
def fresh? (g : Glyph) : Option KeyCandidate → Option (Option KeyCandidate)
  | none => some none
  | some candidate =>
    if candidate.isStale g then if candidate.required then none else some none
    else some (some candidate)

/-- Forget the candidates for which it is too late. -/
def freshen? (g : Glyph) (l : Layout) : Option Layout := do
  let candidate ← fresh? g l.candidate
  let outer ← l.outer.mapM (fresh? g)
  return { l with candidate, outer }

/-! ## From token to token -/

/-- Skip blanks, comments and line breaks. A tab is a blank only where no key may begin, and a byte
order mark may begin a line. -/
def skipTo (flow : Bool) (keyAllowed comment : Bool) : Source → Bool × Source
  | [] => (keyAllowed, [])
  | g :: rest =>
    if isBreak g.char then skipTo flow (keyAllowed || !flow) false rest
    else if comment then skipTo flow keyAllowed true rest
    else if g.column = 0 && g.char = byteOrderMark then skipTo flow keyAllowed false rest
    else if g.char = ' ' || (g.char = '\t' && (flow || !keyAllowed)) then
      skipTo flow keyAllowed false rest
    else if g.char = '#' then skipTo flow keyAllowed true rest
    else (keyAllowed, g :: rest)

def skip (l : Layout) : Layout :=
  let (keyAllowed, source) := skipTo l.inFlow l.keyAllowed false l.source
  { l with keyAllowed, source }

/-- A token that is not part of a collection: a marker between documents or a directive. -/
def outside? (token : Token) (rest : Source) (l : Layout) : Option Layout := do
  let l ← l.unindentAll.withoutCandidate?
  return { l.push token with keyAllowed := false, source := rest }

def openFlow? (token : Token) (g : Glyph) (rest : Source) (l : Layout) : Option Layout := do
  let l ← l.withCandidate? g
  return { l.push token with
    outer := l.candidate :: l.outer, candidate := none, keyAllowed := true, source := rest }

def closeFlow? (token : Token) (rest : Source) (l : Layout) : Option Layout := do
  let l ← l.withoutCandidate?
  let l := match l.outer with
    | candidate :: outer => { l with candidate, outer }
    | [] => l
  return { l.push token with keyAllowed := false, source := rest }

def flowEntry? (rest : Source) (l : Layout) : Option Layout := do
  let l ← l.withoutCandidate?
  return { l.push .flowEntry with keyAllowed := true, source := rest }

/-- Outside brackets, begin a block collection with an indicator at `g`. -/
def blockStart? (start : Token) (g : Glyph) (l : Layout) : Option Layout :=
  if l.inFlow then some l
  else if l.keyAllowed then some (l.indent g.column start)
  else none

def blockEntry? (g : Glyph) (rest : Source) (l : Layout) : Option Layout := do
  let l ← (← l.blockStart? .blockSequenceStart g).withoutCandidate?
  return { l.push .blockEntry with keyAllowed := true, source := rest }

def key? (g : Glyph) (rest : Source) (l : Layout) : Option Layout := do
  let l ← (← l.blockStart? .blockMappingStart g).withoutCandidate?
  return { l.push .key with keyAllowed := !l.inFlow, source := rest }

/-- A colon makes the candidate a key. -/
def value? (g : Glyph) (rest : Source) (l : Layout) : Option Layout :=
  match l.candidate with
  | some candidate =>
    -- the key token goes in first, so that the start of the mapping ends up in front of it
    let l := { l with tokens := l.tokens.insertIdxIfInBounds candidate.place .key }
    let l := l.indentAt candidate.place candidate.column .blockMappingStart
    some { l.push .value with candidate := none, keyAllowed := false, source := rest }
  | none => do
    let l ← l.blockStart? .blockMappingStart g
    return { l.push .value with keyAllowed := !l.inFlow, source := rest }

/-- A token that may be all of a key or the beginning of one. -/
def node? (read : Source → Option (Token × Source)) (g : Glyph) (rest : Source) (l : Layout) :
    Option Layout := do
  let l ← l.withCandidate? g
  let (token, source) ← read rest
  return { l.push token with keyAllowed := false, source }

def blockScalar? (style : Style) (rest : Source) (l : Layout) : Option Layout := do
  let l ← l.withoutCandidate?
  let (text, source) ← Block.scalar? (style = .folded) l.columns.head? rest
  return { l.push (.scalar style text) with keyAllowed := true, source }

/-- A plain scalar, after which a key may begin if its line has ended. -/
def plainScalar? (g : Glyph) (source : Source) (l : Layout) : Option Layout := do
  let l ← l.withCandidate? g
  let (text, keyAllowed, source) ← plain? { flow := l.inFlow, indent := l.nextColumn } source
  return { l.push (.scalar .plain text) with keyAllowed, source }

/-- Characters with a meaning of their own, which no plain scalar begins with. -/
def indicators : List Char := "-?:,[]\x7b\x7d#&*!|>'\"%@`".toList

/-- Whether a plain scalar begins with `g`: a few indicators may begin one if something is attached
to them. -/
def startsPlain (g : Glyph) (rest : Source) (l : Layout) : Bool :=
  !(isSpace g.char || indicators.contains g.char) ||
    (g.char = '-' && !rest.isAt [' ', '\t']) ||
    (!l.inFlow && (g.char = '?' || g.char = ':') && !rest.endsWord)

/-- Read the token that begins with `g`. -/
def readToken? (g : Glyph) (rest : Source) (l : Layout) : Option Layout :=
  let source : Source := g :: rest
  -- inside brackets a question mark or a colon needs no blank after it
  let stands := l.inFlow || rest.endsWord
  if g.column = 0 ∧ g.char = '%' then
    (directive? rest).bind fun (token, rest) => l.outside? token rest
  else if source.isAtMarker '-' then l.outside? .documentStart (rest.drop 2)
  else if source.isAtMarker '.' then l.outside? .documentEnd (rest.drop 2)
  else if g.char = '[' then l.openFlow? .flowSequenceStart g rest
  else if g.char = '\x7b' then l.openFlow? .flowMappingStart g rest
  else if g.char = ']' then l.closeFlow? .flowSequenceEnd rest
  else if g.char = '\x7d' then l.closeFlow? .flowMappingEnd rest
  else if g.char = ',' then l.flowEntry? rest
  else if g.char = '-' ∧ rest.endsWord then l.blockEntry? g rest
  else if g.char = '?' ∧ stands then l.key? g rest
  else if g.char = ':' ∧ stands then l.value? g rest
  else if g.char = '*' then
    l.node? (fun rest => (name? rest).map fun (name, rest) => (.reference name, rest)) g rest
  else if g.char = '&' then
    l.node? (fun rest => (name? rest).map fun (name, rest) => (.anchor name, rest)) g rest
  else if g.char = '!' then l.node? (tag? l.inFlow) g rest
  else if g.char = '|' ∧ !l.inFlow then l.blockScalar? .literal rest
  else if g.char = '>' ∧ !l.inFlow then l.blockScalar? .folded rest
  else if g.char = '\'' ∨ g.char = '"' then
    l.node? (fun rest => (quoted? g.char rest).map fun (text, rest) => (.scalar .quoted text, rest))
      g rest
  else if l.startsPlain g rest then l.plainScalar? g source
  else none

/-- Read the next token; at the end, all that is left are the ends of block collections. -/
def next? (l : Layout) : Option (Layout ⊕ Array Token) :=
  let l := l.skip
  match l.source with
  | [] => l.unindentAll.withoutCandidate?.map (.inr ·.tokens)
  | g :: rest => do
    let l ← l.freshen? g
    return .inl (← (l.unindent g.column).readToken? g rest)

/-- Read up to the end, in at most so many steps. -/
def finish? : (steps : Nat) → Layout → Option (Array Token)
  | 0, _ => none
  | steps + 1, l =>
    match l.next? with
    | some (.inl l) => finish? steps l
    | some (.inr tokens) => some tokens
    | none => none

end Layout

/-- The tokens of a text, if it consists of tokens. Every step but the last takes a character. -/
def tokens? (s : String) : Option (List Token) := do
  let source ← Source.ofText? s
  let tokens ← Layout.finish? (source.length + 1) { source }
  return tokens.toList

end BuildTrial.Yaml
