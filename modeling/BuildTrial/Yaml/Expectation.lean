import BuildTrial.Yaml.Value

/-!
# What is expected of values

An `Expectation` accepts a value or says what is wrong with it. The parts of a value are looked at
in the order in which they stand, and what is missing comes last, so the first mismatch is the one
that is told. Nothing at all is an empty sequence, an empty map and an empty record, and tags are
looked through except where a name is expected.
-/

namespace BuildTrial.Yaml

/-- Why a value is not what is expected. -/
inductive Mismatch where
  | unexpected (found : Value) (expected : String)
  | missing (field : String)
  | unknownName (name : String) (known : List String)

namespace Value

/-- The value without its tags. -/
def untagged : Value → Value
  | .tagged _ value => value.untagged
  | value => value

/-- How a value is named that is not expected. -/
def description : Value → String
  | .null => "unit value"
  | .flag value => s!"boolean `{value}`"
  | .whole value => s!"integer `{value}`"
  | .real value => s!"floating point `{value.positionalText}`"
  | .text value => s!"string {Text.quoted value}"
  | .sequence _ => "sequence"
  | .mapping _ => "map"
  | .tagged _ _ => "enum"

end Value

def Mismatch.message : Mismatch → String
  | .unexpected found expected => s!"invalid type: {found.description}, expected {expected}"
  | .missing field => s!"missing field `{field}`"
  | .unknownName name known =>
    s!"unknown variant `{name}`, expected one of " ++
      ", ".intercalate (known.map fun name => s!"`{name}`")

abbrev Expectation : Type := Value → Except Mismatch Unit

namespace Expectation

def text : Expectation := fun value =>
  match value.untagged with
  | .text _ => .ok ()
  | value => .error (.unexpected value "a string")

def flag : Expectation := fun value =>
  match value.untagged with
  | .flag _ => .ok ()
  | value => .error (.unexpected value "a boolean")

/-- What is expected, or nothing. -/
def optional (expected : Expectation) : Expectation
  | .null => .ok ()
  | value => expected value

def listOf (expected : Expectation) : Expectation := fun value =>
  match value.untagged with
  | .null => .ok ()
  | .sequence items => items.forM expected
  | value => .error (.unexpected value "a sequence")

/-- A map from texts to texts. -/
def textMap : Expectation := fun value =>
  match value.untagged with
  | .null => .ok ()
  | .mapping entries =>
    entries.forM fun (key, value) => do
      text key
      text value
  | value => .error (.unexpected value "a map")

/-- One of several names, which may also be the tag of nothing. -/
def oneOf (names : List String) : Expectation
  | .text name => if names.contains name then .ok () else .error (.unknownName name names)
  | .tagged name value =>
    if names.contains name then
      match value.untagged with
      | .null => .ok ()
      | value => .error (.unexpected value "unit")
    else .error (.unknownName name names)
  | value => .error (.unexpected value "a Value::Tagged enum")

/-! ## Records -/

/-- A field of a record. -/
structure Field where
  key : String
  expected : Expectation
  /-- Whether the field has to be there. -/
  isRequired : Bool := false

/-- The key of an entry, which is a text. -/
def keyOf (expected : String) (key : Value) : Except Mismatch String :=
  match key.untagged with
  | .text key => .ok key
  | key => .error (.unexpected key expected)

/-- Check an entry and answer with its key. Unknown keys may hold anything. -/
def checkEntry (fields : List Field) (entry : Value × Value) : Except Mismatch String := do
  let key ← keyOf "field identifier" entry.1
  match fields.find? (·.key = key) with
  | some field => field.expected entry.2
  | none => pure ()
  return key

/-- The entries of a record with the given name. -/
def record (name : String) (fields : List Field) : Expectation := fun value => do
  let entries ← match value.untagged with
    | .null => .ok []
    | .mapping entries => .ok entries
    | value => .error (.unexpected value s!"struct {name}")
  let keys ← entries.mapM (checkEntry fields)
  match fields.find? fun field => field.isRequired && !keys.contains field.key with
  | some field => .error (.missing field.key)
  | none => .ok ()

/-! ## Documents of JSON -/

mutual

/-- A value that could stand in JSON: no tags, and only texts as keys. -/
def json : Expectation
  | .sequence items => jsonItems items
  | .mapping entries => jsonEntries entries
  | .tagged name value => .error (.unexpected (.tagged name value) "any valid JSON value")
  | _ => .ok ()

def jsonItems : List Value → Except Mismatch Unit
  | [] => .ok ()
  | item :: rest => do
    json item
    jsonItems rest

def jsonEntries : List (Value × Value) → Except Mismatch Unit
  | [] => .ok ()
  | (key, value) :: rest => do
    let _ ← keyOf "a string key" key
    json value
    jsonEntries rest

end

end Expectation

/-! ## Looking into values -/

namespace Value

/-- The items of a sequence. -/
def items (value : Value) : List Value :=
  match value.untagged with
  | .sequence items => items
  | _ => []

/-- What a mapping holds under a key; nothing at all if it does not have the key. -/
def get (value : Value) (key : String) : Value :=
  match value.untagged with
  | .mapping entries =>
    match entries.find? fun (found, _) => found.untagged == .text key with
    | some (_, value) => value
    | none => .null
  | _ => .null

def text? (value : Value) : Option String :=
  match value.untagged with
  | .text s => some s
  | _ => none

def isTrue (value : Value) : Bool := value.untagged == .flag true

/-- What a reading makes of a value that may be nothing. -/
def optional {α : Type} (read : Value → α) : Value → Option α
  | .null => none
  | value => some (read value)

end Value

end BuildTrial.Yaml
