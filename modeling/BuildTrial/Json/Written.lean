import BuildTrial.Json.Number
import BuildTrial.Json.Token
import BuildTrial.Text.Utf8

/-!
# JSON documents as they are written

A document before anyone looks into it: the fields of an object in the order in which they stand,
a key perhaps twice, and scalars that may have no value. A part that is passed over may be anything
of this form (`Written`), however deep; a part that is taken up has to have a value, and only so
many arrays and objects may be nested around it (`Written.value?`).
-/

namespace BuildTrial

inductive Written where
  /-- A literal, a number or a string. A number out of range has no value, and neither has a string
  that is no text. -/
  | scalar (value : Option Json)
  | array (items : List Written)
  | object (fields : List (Option String × Written))
deriving Inhabited

namespace Written

/-- Fields of an object with their keys, of which each may be no text. -/
abbrev Fields : Type := List (Option String × Written)

mutual

/-- The value of a document; `room` is how many arrays and objects may be nested. Of two fields with
one key the later counts. -/
def value? (room : Nat) : Written → Option Json
  | .scalar value => value
  | .array items => if room = 0 then none else (valuesOf? (room - 1) items).map .array
  | .object fields => if room = 0 then none else (fieldsOf? (room - 1) fields).map Json.ofFields

def valuesOf? (room : Nat) : List Written → Option (List Json)
  | [] => some []
  | item :: rest => do return (← value? room item) :: (← valuesOf? room rest)

def fieldsOf? (room : Nat) : List (Option String × Written) → Option Json.Fields
  | [] => some []
  | (key, value) :: rest => do
    return (← key, ← value? room value) :: (← fieldsOf? room rest)

end

mutual

/-- A value as it is written, with the fields of objects in order. -/
def ofJson : Json → Written
  | .array items => .array (ofItems items)
  | .object fields => .object (ofFields fields)
  | .null => .scalar (some .null)
  | .bool value => .scalar (some (.bool value))
  | .int value => .scalar (some (.int value))
  | .float value => .scalar (some (.float value))
  | .string value => .scalar (some (.string value))

def ofItems : List Json → List Written
  | [] => []
  | item :: rest => ofJson item :: ofItems rest

def ofFields : List (String × Json) → List (Option String × Written)
  | [] => []
  | (key, value) :: rest => (some key, ofJson value) :: ofFields rest

end

/-! ## Reading -/

/-- What a literal or a number stands for; none inside if it has no value. -/
def word? (s : String) : Option (Option Json) :=
  if s = "null" then some (some .null)
  else if s = "true" then some (some (.bool true))
  else if s = "false" then some (some (.bool false))
  else Json.number? s.toList

/-- An array or object that is still open, with what was read of it, last part first. -/
inductive Open where
  | array (items : List Written)
  | object (fields : Fields) (key : Option String)

/-- What the next token has to be. -/
inductive Expect where
  | value
  /-- A value, or the end of the array that was just opened. -/
  | valueOrEnd
  | key (fields : Fields)
  | keyOrEnd
  | colon (fields : Fields) (key : Option String)
  /-- A comma or an end, after the given value. -/
  | after (value : Written)

/-- Go on after a complete value. -/
def close? (token : Json.Token) (value : Written) (stack : List Open) :
    Option (Expect × List Open) :=
  match token, stack with
  | .comma, .array items :: stack => some (.value, .array (value :: items) :: stack)
  | .comma, .object fields key :: stack => some (.key ((key, value) :: fields), stack)
  | .closeArray, .array items :: stack => some (.after (.array (value :: items).reverse), stack)
  | .closeObject, .object fields key :: stack =>
    some (.after (.object ((key, value) :: fields).reverse), stack)
  | _, _ => none

/-- Begin a value. -/
def start? (token : Json.Token) (stack : List Open) : Option (Expect × List Open) :=
  match token with
  | .text s => some (.after (.scalar (s.map .string)), stack)
  | .word s => (word? s).map fun value => (.after (.scalar value), stack)
  | .openArray => some (.valueOrEnd, .array [] :: stack)
  | .openObject => some (.keyOrEnd, stack)
  | _ => none

def readToken? (token : Json.Token) (expect : Expect) (stack : List Open) :
    Option (Expect × List Open) :=
  match expect with
  | .value => start? token stack
  | .valueOrEnd =>
    match token, stack with
    | .closeArray, .array [] :: stack => some (.after (.array []), stack)
    | _, _ => start? token stack
  | .key fields =>
    match token with
    | .text key => some (.colon fields key, stack)
    | _ => none
  | .keyOrEnd =>
    match token with
    | .text key => some (.colon [] key, stack)
    | .closeObject => some (.after (.object []), stack)
    | _ => none
  | .colon fields key =>
    match token with
    | .colon => some (.value, .object fields key :: stack)
    | _ => none
  | .after value => close? token value stack

def readTokens? (expect : Expect) (stack : List Open) : List Json.Token → Option Written
  | [] =>
    match expect, stack with
    | .after value, [] => some value
    | _, _ => none
  | token :: rest =>
    match readToken? token expect stack with
    | some (expect, stack) => readTokens? expect stack rest
    | none => none

/-- The document that a text is, if it is one. -/
def ofText? (s : String) : Option Written :=
  (Json.tokens? (s.toList.map some)).bind (readTokens? .value [])

/-- The document that bytes are. In a part that is passed over, a string may hold bytes that encode
no character. -/
def ofBytes? (bytes : List UInt8) : Option Written :=
  (Json.tokens? (Text.looseChars bytes)).bind (readTokens? .value [])

end Written

namespace Json

/-- How deep the arrays and objects of a document may be nested where they are taken up. -/
def maxDepth : Nat := 127

/-- The value of a document, if the text is one. -/
def parse? (s : String) : Option Json := (Written.ofText? s).bind (Written.value? maxDepth)

end Json

end BuildTrial
