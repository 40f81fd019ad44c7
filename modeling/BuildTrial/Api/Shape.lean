import BuildTrial.Api.Timestamp
import BuildTrial.Json.Written
import BuildTrial.Text.Bytes

/-!
# Shapes of documents

A `Shape` says which documents a field may hold, and gives each of them its normal form: the one in
which the field is written back. Two kinds of objects are told apart. In a `record` any field may be
missing or `null`, and of two fields with one key the later counts. In a `tuple` no field may stand
twice, some have to be there, and the values may also be listed without their keys. Both drop the
fields that they do not know without looking into them.
-/

namespace BuildTrial.Api

/-- The normal form of a document with room for so many nested arrays and objects, if it has the
shape. -/
abbrev Shape : Type := (room : Nat) → Written → Option Json

namespace Shape

def scalar (check : Json → Option Json) : Shape
  | _, .scalar (some value) => check value
  | _, _ => none

def text : Shape := scalar fun
  | .string s => some (.string s)
  | _ => none

/-- One text and no other. -/
def exactly (word : String) : Shape := scalar fun
  | .string s => if s = word then some (.string s) else none
  | _ => none

def flag : Shape := scalar fun
  | .bool b => some (.bool b)
  | _ => none

/-- A whole number of `bits` bits, one of them for the sign. -/
def signed (bits : Nat) : Shape := scalar fun
  | .int n =>
    if -(2 : Int) ^ (bits - 1) ≤ n && n < (2 : Int) ^ (bits - 1) then some (.int n) else none
  | _ => none

/-- A whole number of `bits` bits, without a sign. -/
def unsigned (bits : Nat) : Shape := scalar fun
  | .int n => if 0 ≤ n && n < (2 : Int) ^ bits then some (.int n) else none
  | _ => none

/-- A point in time to the second. -/
def moment : Shape := scalar fun
  | .string s => (Timestamp.ofText? s).map fun t => .string t.text
  | _ => none

/-- Bytes in base64; `null` stands for none. -/
def bytes : Shape := scalar fun
  | .null => some (.string "")
  | .string s => (Text.Base64.decode? s.toList).map fun _ => .string s
  | _ => none

/-- A text or a whole number of 32 bits. -/
def textOrNumber : Shape := fun room written => (text room written).or (signed 32 room written)

def anything : Shape := Written.value?

def listOf (shape : Shape) : Shape
  | room + 1, .array items => (items.mapM (shape room)).map .array
  | _, _ => none

/-! ## Objects -/

/-- The fields of an object, if every key is a text. -/
def named? (fields : Written.Fields) : Option (List (String × Written)) :=
  fields.mapM fun (key, value) => key.map fun key => (key, value)

def mapOf (shape : Shape) : Shape
  | room + 1, .object fields => do
    let entries ← (← named? fields).mapM fun (key, value) => do return (key, ← shape room value)
    return .ofFields entries
  | _, _ => none

def isNull : Written → Bool
  | .scalar (some .null) => true
  | _ => false

def nullOr (shape : Shape) : Shape := fun room value =>
  if isNull value then some .null else shape room value

structure Field where
  key : String
  shape : Shape
  /-- What is written for the field if it is missing; nothing for most. -/
  default : Option Json := none
  /-- Whether `null` stands for a field that is missing. -/
  mayBeNull : Bool := true

namespace Field

/-- What a field holds; nothing inside if it counts as missing. -/
def value? (field : Field) (room : Nat) (value : Written) : Option (Option Json) :=
  if field.mayBeNull && isNull value then some none else (field.shape room value).map some

/-- The normal form of a field. All fields with its key need its shape, and the last one counts. -/
def read? (field : Field) (room : Nat) (fields : List (String × Written)) :
    Option Json.Fields := do
  let values ← (fields.filter (·.1 = field.key)).mapM fun (_, value) => field.value? room value
  return (values.getLast?.join.or field.default).toList.map (field.key, ·)

end Field

/-- An object of which the given fields are known; they are declared in the order of their keys. -/
def record (known : List Field) : Shape
  | room + 1, .object fields => do
    let fields ← named? fields
    let values ← known.mapM fun field => field.read? room fields
    return .object values.flatten
  | _, _ => none

/-- A record whose fields may all be missing. -/
def fields (known : List (String × Shape)) : Shape :=
  record (known.map fun (key, shape) => { key, shape })

/-- The only field with a key; nothing inside if there is none, and a failure if there are more. -/
def single? (key : String) (fields : List (String × Written)) : Option (Option Written) :=
  match fields.filter (·.1 = key) with
  | [] => some none
  | [(_, value)] => some (some value)
  | _ => none

/-- A field of a tuple. -/
structure Part where
  key : String
  shape : Shape
  /-- What a missing field stands for; without a default it has to be there. -/
  default : Option Json := none

/-- The normal form of a part that may be missing. -/
def Part.read? (part : Part) (room : Nat) : Option Written → Option (String × Json)
  | none => part.default.map (part.key, ·)
  | some value => (part.shape room value).map (part.key, ·)

/-- An object of which the given fields are known and stand at most once, or the list of their
values, of which the last ones may be missing. -/
def tuple (known : List Part) : Shape
  | room + 1, .object fields => do
    let fields ← named? fields
    let values ← known.mapM fun (part : Part) => do
      part.read? room (← single? part.key fields)
    return .ofFields values
  | room + 1, .array items =>
    if known.length < items.length then none
    else
      let given := items.map some ++ List.replicate (known.length - items.length) none
      ((known.zip given).mapM fun entry : Part × Option Written =>
        entry.1.read? room entry.2).map .ofFields
  | _, _ => none

/-- One of the given words, as itself or as the only key of an object. -/
def word (words : List String) : Shape
  | _, .scalar (some (.string s)) => if words.contains s then some (.string s) else none
  | _ + 1, .object [(some s, value)] =>
    if words.contains s && isNull value then some (.string s) else none
  | _, _ => none

end Shape

end BuildTrial.Api
