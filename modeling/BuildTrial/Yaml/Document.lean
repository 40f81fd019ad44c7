import BuildTrial.Yaml.Layout
import BuildTrial.Yaml.Node

/-!
# Documents of YAML

The nodes of a stream of documents, from its tokens. A node that is missing where one may be left
out is an empty plain scalar. Tags are spelled out by the directives before their document.
-/

namespace BuildTrial.Yaml

/-- How far the tokens of a document are read. -/
structure Progress where
  tokens : List Token
  /-- What the handles of tags stand for. -/
  handles : List (String × TagText)
  /-- The names of the anchors so far with their numbers, no name twice. -/
  names : List (String × Nat) := []

/-- Reading of tokens, which can fail. -/
abbrev Reading := StateT Progress Option

namespace Reading

/-- The next token, which stays. -/
def peek : Reading (Option Token) := return (← get).tokens.head?

/-- Go past a token. -/
def skip : Reading Unit := modify fun progress => { progress with tokens := progress.tokens.drop 1 }

/-- Go past the given token if it is the next one. -/
def takes (token : Token) : Reading Bool := do
  if (← peek) = some token then
    skip
    return true
  else return false

/-- Whether one of the given tokens is next. -/
def isAt (tokens : List Token) : Reading Bool := return (← peek).any tokens.contains

/-- The number of a new anchor: how many other names there are, also when its name is set again. -/
def number (name : String) : Reading Nat := do
  let progress ← get
  let n := progress.names.length
  set { progress with names := (name, n) :: progress.names.filter (·.1 ≠ name) }
  return n

/-- The number of an anchor that is meant. -/
def lookup (name : String) : Reading Nat := do
  (← get).names.lookup name

/-- The tag in full. -/
def expand (handle : String) (suffix : TagText) : Reading TagText := do
  if handle.isEmpty then return suffix
  else
    let expansion ← (← get).handles.lookup handle
    return expansion.bind fun expansion => suffix.map (expansion ++ ·)

/-- The anchor and the tag of a node, in either order. -/
def properties : Reading Properties := do
  match ← peek with
  | some (.anchor name) =>
    skip
    let anchor ← number name
    match ← peek with
    | some (.tag handle suffix) =>
      skip
      return { anchor, tag := ← expand handle suffix }
    | _ => return { anchor }
  | some (.tag handle suffix) =>
    skip
    let tag ← expand handle suffix
    match ← peek with
    | some (.anchor name) =>
      skip
      return { anchor := ← number name, tag }
    | _ => return { tag }
  | _ => return {}

/-- Where a node stands. -/
inductive Place where
  /-- In brackets. -/
  | flow
  /-- Where a block collection may begin. -/
  | block
  /-- A key or a value of a block mapping, where a sequence need not be indented. -/
  | entry
deriving DecidableEq

/-- The node that is read, unless one of the given tokens shows that it was left out. -/
def orEmpty (ends : List Token) (node : Reading Node) : Reading Node := do
  if ← isAt ends then return .empty {} else node

mutual

/-- A node. All functions of this group take at most as many steps within each other as given. -/
def node (place : Place) : (steps : Nat) → Reading Node
  | 0 => failure
  | steps + 1 => do
    if let some (.reference name) ← peek then
      skip
      return .reference (← lookup name)
    let properties ← properties
    match ← peek with
    | some .blockEntry =>
      if place = .entry then return .sequence properties (← looseItems steps)
      else if properties = {} then failure
      else return .empty properties
    | some (.scalar style text) =>
      skip
      return .scalar properties style text
    | some .flowSequenceStart =>
      skip
      return .sequence properties (← flowItems true steps)
    | some .flowMappingStart =>
      skip
      return .mapping properties (← flowEntries true steps)
    | some .blockSequenceStart =>
      if place = .flow then if properties = {} then failure else return .empty properties
      else
        skip
        return .sequence properties (← blockItems steps)
    | some .blockMappingStart =>
      if place = .flow then if properties = {} then failure else return .empty properties
      else
        skip
        return .mapping properties (← blockEntries steps)
    | _ => if properties = {} then failure else return .empty properties

/-- The items of a block sequence, up to its end. -/
def blockItems : (steps : Nat) → Reading (List Node)
  | 0 => failure
  | steps + 1 => do
    if ← takes .blockEntry then
      let item ← orEmpty [.blockEntry, .blockEnd] (node .block steps)
      return item :: (← blockItems steps)
    else if ← takes .blockEnd then return []
    else failure

/-- The items of a sequence that is not indented; its end has no token. -/
def looseItems : (steps : Nat) → Reading (List Node)
  | 0 => failure
  | steps + 1 => do
    if ← takes .blockEntry then
      let item ← orEmpty [.blockEntry, .key, .value, .blockEnd] (node .block steps)
      return item :: (← looseItems steps)
    else return []

/-- The entries of a block mapping, up to its end. -/
def blockEntries : (steps : Nat) → Reading (List (Node × Node))
  | 0 => failure
  | steps + 1 => do
    if ← takes .key then
      let key ← orEmpty [.key, .value, .blockEnd] (node .entry steps)
      let value ←
        if ← takes .value then orEmpty [.key, .value, .blockEnd] (node .entry steps)
        else pure (.empty {})
      return (key, value) :: (← blockEntries steps)
    else if ← takes .blockEnd then return []
    else failure

/-- The items of a sequence in brackets, up to its end. -/
def flowItems (first : Bool) : (steps : Nat) → Reading (List Node)
  | 0 => failure
  | steps + 1 => do
    if ← takes .flowSequenceEnd then return []
    if !first then
      if !(← takes .flowEntry) then failure
    if ← takes .key then
      let entry ← pair steps
      return .mapping {} [entry] :: (← flowItems false steps)
    else if ← takes .flowSequenceEnd then return []
    else
      let item ← node .flow steps
      return item :: (← flowItems false steps)

/-- An item of a sequence in brackets that is a mapping with one entry. Where its key is left out,
the token that shows this is gone past. -/
def pair : (steps : Nat) → Reading (Node × Node)
  | 0 => failure
  | steps + 1 => do
    let key ←
      if ← isAt [.value, .flowEntry, .flowSequenceEnd] then
        skip
        pure (.empty {})
      else node .flow steps
    let value ←
      if ← takes .value then orEmpty [.flowEntry, .flowSequenceEnd] (node .flow steps)
      else pure (.empty {})
    return (key, value)

/-- The entries of a mapping in braces, up to its end. -/
def flowEntries (first : Bool) : (steps : Nat) → Reading (List (Node × Node))
  | 0 => failure
  | steps + 1 => do
    if ← takes .flowMappingEnd then return []
    if !first then
      if !(← takes .flowEntry) then failure
    if ← takes .key then
      let key ← orEmpty [.value, .flowEntry, .flowMappingEnd] (node .flow steps)
      let value ←
        if ← takes .value then orEmpty [.flowEntry, .flowMappingEnd] (node .flow steps)
        else pure (.empty {})
      return (key, value) :: (← flowEntries false steps)
    else if ← takes .flowMappingEnd then return []
    else
      let key ← node .flow steps
      return (key, .empty {}) :: (← flowEntries false steps)

end

end Reading

/-! ## Directives -/

/-- What directives say. -/
structure Directives where
  version : Option (Nat × Nat) := none
  handles : List (String × TagText) := []

namespace Directives

/-- One more directive; none may be given twice, and of the versions two are known. -/
def add? (d : Directives) : Token → Option Directives
  | .version major minor =>
    if d.version.isNone ∧ major = 1 ∧ (minor = 1 ∨ minor = 2) then
      some { d with version := some (major, minor) }
    else none
  | .tagHandle handle expansion =>
    if (d.handles.lookup handle).isNone then
      some { d with handles := (handle, expansion) :: d.handles }
    else none
  | _ => none

/-- The directives at the front of the tokens, and the tokens after them. -/
def read? (d : Directives) : List Token → Option (Directives × List Token)
  | .version major minor :: rest => (d.add? (.version major minor)).bind (read? · rest)
  | .tagHandle handle expansion :: rest =>
    (d.add? (.tagHandle handle expansion)).bind (read? · rest)
  | tokens => some (d, tokens)

/-- Handles that need no directive. -/
def presetHandles : List (String × TagText) :=
  [("!", some "!"), ("!!", some "tag:yaml.org,2002:")]

end Directives

namespace Node

/-- Whether a document has no content of its own before its end. -/
def isMissing : List Token → Bool
  | .version _ _ :: _ => true
  | .tagHandle _ _ :: _ => true
  | .documentStart :: _ => true
  | .documentEnd :: _ => true
  | [] => true
  | _ => false

/-- The node of a document that begins here; every step within another takes a token, or is the
beginning of a sequence that is not indented. -/
def ofContent? (handles : List (String × TagText)) (tokens : List Token) :
    Option (Node × List Token) := do
  let (n, progress) ← Reading.node .block (2 * tokens.length + 2) { tokens, handles }
  return (n, progress.tokens)

/-- The node of a document whose start is marked, and the tokens after it. -/
def ofMarked? (directives : Directives) : List Token → Option (Node × List Token)
  | .documentStart :: rest =>
    if isMissing rest then some (.empty {}, rest)
    else ofContent? (directives.handles ++ Directives.presetHandles) rest
  | _ => none

/-- The node of the first document and the tokens after it. Without directives its start need not be
marked. -/
def first? (tokens : List Token) : Option (Node × List Token) := do
  let (directives, rest) ← Directives.read? {} tokens
  if rest.length = tokens.length ∧ rest.head? ≠ some .documentStart then
    ofContent? Directives.presetHandles rest
  else ofMarked? directives rest

/-- The node of a stream of one document, after which only end markers may follow. -/
def ofTokens? (tokens : List Token) : Option Node := do
  let (n, rest) ← first? tokens
  if rest.all (· = .documentEnd) then return n else none

/-- The nodes of the documents that follow another one, at most so many. -/
def followingDocuments? : (most : Nat) → List Token → Option (List Node)
  | most, tokens =>
    match tokens.dropWhile (· = .documentEnd) with
    | [] => some []
    | tokens =>
      match most with
      | 0 => none
      | most + 1 => do
        let (directives, rest) ← Directives.read? {} tokens
        let (n, rest) ← ofMarked? directives rest
        return n :: (← followingDocuments? most rest)

/-- The nodes of all documents of a stream. Every document but the first takes a token. -/
def allOfTokens? : List Token → Option (List Node)
  | [] => some []
  | tokens => do
    let (n, rest) ← first? tokens
    return n :: (← followingDocuments? rest.length rest)

/-- The node of a text with one document. -/
def parse? (s : String) : Option Node := (tokens? s).bind ofTokens?

/-- The nodes of the documents of a text. -/
def parseAll? (s : String) : Option (List Node) := (tokens? s).bind allOfTokens?

end Node

end BuildTrial.Yaml
