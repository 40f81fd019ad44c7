import BuildTrial.Decimal.Shortest
import BuildTrial.Resource

/-!
# JSON documents

Values of JSON, with whole numbers apart from fractional ones. The fields of an object are kept in
the order of their keys with no key twice, so equal documents are equal values; `Json.render` writes
one on a single line without blanks.
-/

namespace BuildTrial

inductive Json where
  | null
  | bool (value : Bool)
  | int (value : Int)
  | float (value : Binary64)
  | string (value : String)
  | array (items : List Json)
  | object (fields : List (String × Json))
deriving Repr, Inhabited

namespace Json

abbrev Fields : Type := List (String × Json)

/-- Put a field in its place by key, instead of one with the same key. -/
def setField (key : String) (value : Json) : Fields → Fields
  | [] => [(key, value)]
  | field :: rest =>
    match compare key field.1 with
    | .lt => (key, value) :: field :: rest
    | .eq => (key, value) :: rest
    | .gt => field :: setField key value rest

/-- The fields in order; of two with one key the later stays. -/
def orderedFields (fields : Fields) : Fields :=
  fields.foldl (fun ordered field => setField field.1 field.2 ordered) []

/-- An object with the given fields in any order. -/
def ofFields (fields : Fields) : Json := .object (orderedFields fields)

def ofStringMap (map : StringMap String) : Json :=
  .object (map.toList.map fun (key, value) => (key, .string value))

def ofOption {α : Type} (f : α → Json) : Option α → Json
  | some a => f a
  | none => .null

def ofNat (n : Nat) : Json := .int n

def strings (items : List String) : Json := .array (items.map .string)

def isNull : Json → Bool
  | .null => true
  | _ => false

def fields? : Json → Option Fields
  | .object fields => some fields
  | _ => none

def items? : Json → Option (List Json)
  | .array items => some items
  | _ => none

def string? : Json → Option String
  | .string value => some value
  | _ => none

def bool? : Json → Option Bool
  | .bool value => some value
  | _ => none

def int? : Json → Option Int
  | .int value => some value
  | _ => none

/-- The value of a field; nothing if this is no object or has no such field. -/
def field? (key : String) (json : Json) : Option Json :=
  match json with
  | .object fields => fields.lookup key
  | _ => none

/-- How a character stands inside a string of a document. -/
def escapeChar (c : Char) : String :=
  if c = '"' then "\\\""
  else if c = '\\' then "\\\\"
  else if c = '\n' then "\\n"
  else if c = '\r' then "\\r"
  else if c = '\t' then "\\t"
  else if c.toNat = 8 then "\\b"
  else if c.toNat = 12 then "\\f"
  else if c.toNat < 32 then
    "\\u" ++ Duration.padZeros 4 (String.ofList (Nat.toDigits 16 c.toNat))
  else c.toString

def renderString (s : String) : String := "\"" ++ String.join (s.toList.map escapeChar) ++ "\""

mutual

/-- A document on one line. -/
def render : Json → String
  | .null => "null"
  | .bool true => "true"
  | .bool false => "false"
  | .int value => toString value
  | .float value => value.jsonText
  | .string value => renderString value
  | .array items => "[" ++ renderItems items ++ "]"
  | .object fields => "\x7b" ++ renderFields fields ++ "\x7d"

def renderItems : List Json → String
  | [] => ""
  | [item] => render item
  | item :: rest => render item ++ "," ++ renderItems rest

def renderFields : List (String × Json) → String
  | [] => ""
  | [(key, value)] => renderString key ++ ":" ++ render value
  | (key, value) :: rest => renderString key ++ ":" ++ render value ++ "," ++ renderFields rest

end

end Json

end BuildTrial
