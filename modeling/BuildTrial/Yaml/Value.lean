import BuildTrial.Decimal.Shortest
import BuildTrial.Text.Cut
import BuildTrial.Yaml.Document
import BuildTrial.Yaml.Spelling

/-!
# Values of YAML

What a node stands for by itself, whatever is expected of it. Plain scalars are told apart by their
spelling, references stand for what they refer to, and a tag that begins with an exclamation mark
stays on its value. A mapping has no key twice.
-/

namespace BuildTrial.Yaml

inductive Value where
  | null
  | flag (value : Bool)
  | whole (value : Int)
  | real (value : Binary64)
  | text (value : String)
  | sequence (items : List Value)
  | mapping (entries : List (Value × Value))
  | tagged (tag : String) (value : Value)
deriving BEq, Repr, Inhabited

/-- Why a text has no values. -/
inductive ValueFault where
  /-- It is no stream of documents, or a node of it stands for nothing. -/
  | unreadable
  | repeatedKey (key : Value)

namespace ValueFault

/-- How a key is named that occurs twice. -/
def keyText : Value → String
  | .null => "with null key"
  | .flag value => s!"with key `{value}`"
  | .whole value => s!"with key {value}"
  | .real value => s!"with key {value.scheduleText}"
  | .text value => s!"with key {Text.quoted value}"
  | _ => "in YAML map"

def message : ValueFault → String
  | .unreadable => "the text is not well-formed"
  | .repeatedKey key => s!"duplicate entry {keyText key}"

end ValueFault

namespace Value

/-! ## Scalars -/

/-- Whether a whole number fits 64 bits, with a sign only if it is negative. -/
def fitsWord (n : Int) : Bool := -2 ^ 63 ≤ n && n < 2 ^ 64

/-- Whether a whole number fits 128 bits. -/
def fitsDoubleWord (n : Int) : Bool := -2 ^ 127 ≤ n && n < 2 ^ 128

/-- A floating-point number, or a text if it is none. -/
def realOrText (s : String) : Value :=
  if hasIdleZero s then .text s
  else
    match realOfText? s with
    | some x => .real x
    | none => .text s

/-- What a plain scalar stands for. Whole numbers between 64 and 128 bits are refused, and greater
ones are floating-point numbers. -/
def ofPlain? (s : String) : Option Value :=
  if s.isEmpty || isNullText s then some .null
  else
    match flagOfText? s with
    | some value => some (.flag value)
    | none =>
      match wholeOfText? s with
      | some n =>
        if fitsWord n then some (.whole n)
        else if fitsDoubleWord n then none
        else some (realOrText s)
      | none => some (realOrText s)

/-- What a scalar stands for that has no tag of its own. -/
def ofStyled? (style : Style) (s : String) : Option Value :=
  if style = .plain then ofPlain? s else some (.text s)

/-- A value with the tag of its node, if that begins with an exclamation mark; a name has to follow
the mark. Other tags are dropped. -/
def withTag? (properties : Properties) (value : Value) : Option Value :=
  match properties.localName? with
  | some name => if name.isEmpty then none else some (.tagged name value)
  | none => some value

/-- What a scalar stands for. The tags of the common types insist on a spelling; under any other tag
that does not begin with an exclamation mark it is a text. -/
def ofScalar? (properties : Properties) (style : Style) (s : String) : Option Value :=
  let tag := properties.tag.join
  if tag = some Tag.bool then (flagOfText? s).map .flag
  else if tag = some Tag.int then ((wholeOfText? s).filter fitsWord).map .whole
  else if tag = some Tag.float then (realOfText? s).map .real
  else if tag = some Tag.null then if isNullText s then some .null else none
  else if properties.tag.isSome && properties.localName?.isNone then some (.text s)
  else (ofStyled? style s).bind (withTag? properties)

/-! ## Nodes -/

/-- Reading of a document, which may follow only so many more references. -/
abbrev Reading := StateT Nat (Except ValueFault)

/-- What a reading answers that may fail without a reason. -/
def orUnreadable {α : Type} : Option α → Reading α
  | some a => pure a
  | none => throw .unreadable

/-- The node itself, or the one that it refers to. -/
def follow (anchors : Node.Anchors) (n : Node) : Reading Node := do
  if n.isReference then
    match ← get with
    | 0 => throw .unreadable
    | left + 1 => set left
  orUnreadable (n.resolve? anchors)

/-- One more entry of a mapping; its key is new. -/
def addEntry (read : Node → Reading Value) (entries : List (Value × Value)) (entry : Node × Node) :
    Reading (List (Value × Value)) := do
  let key ← read entry.1
  if entries.any (·.1 == key) then throw (.repeatedKey key)
  return entries ++ [(key, ← read entry.2)]

/-- What a node stands for in which collections are nested up to a depth. -/
def ofNode (anchors : Node.Anchors) (depth : Nat) (n : Node) : Reading Value := do
  match ← follow anchors n with
  | .scalar properties style s => orUnreadable (ofScalar? properties style s)
  | .sequence properties items =>
    match depth with
    | 0 => throw .unreadable
    | depth + 1 =>
      orUnreadable (withTag? properties (.sequence (← items.mapM (ofNode anchors depth))))
  | .mapping properties entries =>
    match depth with
    | 0 => throw .unreadable
    | depth + 1 =>
      let read := ofNode anchors depth
      orUnreadable (withTag? properties (.mapping (← entries.foldlM (addEntry read) [])))
  | .reference _ => throw .unreadable

/-- How deep collections may be nested. -/
def depthLimit : Nat := 128

/-- What a document stands for. -/
def ofDocument (n : Node) : Except ValueFault Value :=
  (ofNode n.anchors depthLimit n).run' n.followLimit

/-- What the documents of a text stand for. -/
def parseAll (s : String) : Except ValueFault (List Value) :=
  match Node.parseAll? s with
  | none => .error .unreadable
  | some documents => documents.mapM ofDocument

end Value

end BuildTrial.Yaml
