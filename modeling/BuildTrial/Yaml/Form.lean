import BuildTrial.Scenario.Codec
import BuildTrial.Yaml.Document
import BuildTrial.Yaml.Spelling

/-!
# Suites in YAML

How YAML writes the parts of a record. A text is a scalar however it looks, while a flag or a count
is a plain scalar, or a literal one that is tagged as such. What was left out is also an empty list
and an empty map. A name among several may be a tag without content.
-/

namespace BuildTrial.Yaml

namespace Node

variable (anchors : Anchors)

/-- The text of a scalar that stands for something with the given tag. -/
def plainText? (tag : String) : Node → Option String
  | .scalar properties style text =>
    if style = .plain ∨ (style = .literal ∧ properties.tag = some (some tag)) then some text
    else none
  | _ => none

def text? (n : Node) : Option String :=
  match n.resolve? anchors with
  | some (.scalar _ _ text) => some text
  | _ => none

def flag? (n : Node) : Option Bool := do
  flagOfText? (← (← n.resolve? anchors).plainText? Tag.bool)

def count? (n : Node) : Option Nat := do
  countOfText? (← (← n.resolve? anchors).plainText? Tag.int)

def items? (n : Node) : Option (List Node) :=
  match n.resolve? anchors with
  | some (.sequence _ items) => some items
  | some (.scalar _ .plain "") => some []
  | _ => none

def entries? (n : Node) : Option (List (String × Node)) :=
  match n.resolve? anchors with
  | some (.mapping _ entries) =>
    entries.mapM fun (entry : Node × Node) =>
      (entry.1.text? anchors).map fun key => (key, entry.2)
  | some (.scalar _ .plain "") => some []
  | _ => none

/-- Whether no key occurs twice. -/
def distinctKeys (fields : List (String × Node)) : Bool :=
  match fields with
  | [] => true
  | (key, _) :: rest => !rest.any (·.1 = key) && distinctKeys rest

def fields? (keys : List String) (n : Node) : Option (List (String × Node)) :=
  (n.entries? anchors).filter fun fields =>
    fields.all (keys.contains ·.1) && distinctKeys fields

/-- Whether a node says that there is nothing. -/
def isNull : Node → Bool
  | .scalar properties .plain text =>
    match properties.tag with
    | none => text.isEmpty || isNullText text
    | some tag => tag = Tag.null && isNullText text
  | _ => false

def optional (n : Node) : Option Node :=
  if (n.resolve? anchors).any isNull then none else some n

def choice? (n : Node) : Option String :=
  match n.resolve? anchors with
  | some (.scalar properties style text) =>
    match properties.localName? with
    | some name => if style = .plain ∧ (text.isEmpty ∨ isNullText text) then some name else none
    | none => some text
  | _ => none

end Node

/-- How YAML writes the parts of a record. -/
def dataForm (anchors : Node.Anchors) : DataForm Node where
  text? := Node.text? anchors
  flag? := Node.flag? anchors
  count? := Node.count? anchors
  items? := Node.items? anchors
  entries? := Node.entries? anchors
  fields? := Node.fields? anchors
  optional := Node.optional anchors
  choice? := Node.choice? anchors

/-- Deeper than any suite is nested. -/
def suiteDepth : Nat := 16

/-- The suite in a text. References may not multiply it without bound. -/
def suite? (s : String) : Option Suite := do
  let n ← Node.parse? s
  let suite ← Suite.read? (dataForm n.anchors) n
  if n.followLimit < n.follows n.anchors suiteDepth then none else some suite

end BuildTrial.Yaml

namespace BuildTrial.Suite

/-- The valid suite in a text. -/
def ofYaml (s : String) : Except Error Suite :=
  match Yaml.suite? s with
  | none => .error (.serialization "text is no suite" (some "SuiteConfig"))
  | some suite => suite.checked

end BuildTrial.Suite
