import BuildTrial.Yaml.Token

/-!
# Nodes of YAML

A document is a node: a scalar, a sequence, a mapping, or a reference to a node with an anchor.
Anchors are numbered, and a reference means the last node of the document with its number.
-/

namespace BuildTrial.Yaml

/-- What a node may carry besides its content. -/
structure Properties where
  /-- The number of its anchor. -/
  anchor : Option Nat := none
  tag : Option TagText := none
deriving DecidableEq, Repr

/-- The name in a tag that begins with an exclamation mark. -/
def Properties.localName? (p : Properties) : Option String :=
  match p.tag.join.map String.toList with
  | some ('!' :: name) => some (String.ofList name)
  | _ => none

inductive Node where
  | scalar (properties : Properties) (style : Style) (text : String)
  | sequence (properties : Properties) (items : List Node)
  | mapping (properties : Properties) (entries : List (Node × Node))
  | reference (anchor : Nat)
deriving Repr, Inhabited

namespace Node

/-- A node that was left out. -/
def empty (properties : Properties) : Node := .scalar properties .plain ""

/-- A node with an anchor, by its number. -/
def ownAnchor (n : Node) (properties : Properties) : List (Nat × Node) :=
  properties.anchor.toList.map fun anchor => (anchor, n)

mutual

/-- The nodes with anchors in a node, in the order in which they begin. -/
def anchored : Node → List (Nat × Node)
  | .scalar properties style text => ownAnchor (.scalar properties style text) properties
  | .sequence properties items =>
    ownAnchor (.sequence properties items) properties ++ anchoredInItems items
  | .mapping properties entries =>
    ownAnchor (.mapping properties entries) properties ++ anchoredInEntries entries
  | .reference _ => []

def anchoredInItems : List Node → List (Nat × Node)
  | [] => []
  | item :: rest => anchored item ++ anchoredInItems rest

def anchoredInEntries : List (Node × Node) → List (Nat × Node)
  | [] => []
  | (key, value) :: rest => anchored key ++ anchored value ++ anchoredInEntries rest

end

mutual

/-- The size of a node: each scalar and each reference counts once, each collection twice. -/
def size : Node → Nat
  | .scalar _ _ _ => 1
  | .sequence _ items => 2 + itemsSize items
  | .mapping _ entries => 2 + entriesSize entries
  | .reference _ => 1

def itemsSize : List Node → Nat
  | [] => 0
  | item :: rest => size item + itemsSize rest

def entriesSize : List (Node × Node) → Nat
  | [] => 0
  | (key, value) :: rest => size key + size value + entriesSize rest

end

/-- Nodes by the numbers of their anchors. -/
abbrev Anchors := List (Nat × Node)

/-- The anchors of a document, the last first. -/
def anchors (n : Node) : Anchors := n.anchored.reverse

def isReference : Node → Bool
  | .reference _ => true
  | _ => false

/-- The node that a reference means; any other node is itself. -/
def resolve? (anchors : Anchors) : Node → Option Node
  | .reference anchor => anchors.lookup anchor
  | n => some n

/-- How many references may be followed to read a node completely, so that they cannot multiply it
without bound. -/
def followLimit (n : Node) : Nat := 100 * n.size

/-- How many references are followed to read a node completely, down to a depth. -/
def follows (anchors : Anchors) : (depth : Nat) → Node → Nat
  | 0, _ => 0
  | depth + 1, n =>
    match n with
    | .scalar _ _ _ => 0
    | .sequence _ items => (items.map (follows anchors depth)).sum
    | .mapping _ entries =>
      (entries.map fun (key, value) => follows anchors depth key + follows anchors depth value).sum
    | .reference anchor =>
      match anchors.lookup anchor with
      | some n => 1 + follows anchors depth n
      | none => 1

end Node

end BuildTrial.Yaml
