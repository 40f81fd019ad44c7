import BuildTrial.Api.ClientError
import BuildTrial.Api.Object

/-!
# Talking to the API server

Sending a request and reading the document in its reply: an object, a list of objects, or the
account of a deletion.
-/

namespace BuildTrial.Api

/-! ## Sending -/

/-- The body of a reply that is no refusal. -/
def Reply.body : Reply → Except ClientError String
  | .answered status body =>
    if 400 ≤ status && status < 600 then .error (.refused (.ofReply status body)) else .ok body
  | .upgraded _ => .ok ""
  | .failed reason => .error (.failed reason)

def send (method : Method) (target : String) (body : Option Json := none) :
    HttpProgram (Except ClientError Reply) :=
  match sentTarget target with
  | .error fault => .done (.error (.unsendable fault))
  | .ok path => .ask (.call ⟨method, path, body⟩) fun reply => .done (.ok reply)

/-- How the document in a reply is read, with room for so many nested arrays and objects. -/
abbrev Reading (α : Type) : Type := (room : Nat) → Written → Option α

/-- Send a request, and answer with what `read` makes of the document in its reply. -/
def request {α : Type} (method : Method) (target : String) (body : Option Json)
    (read : Reading α) : HttpProgram (Except ClientError α) :=
  (send method target body).bind fun reply =>
    .done do
      let body ← (← reply).body
      match (Written.ofText? body).bind (read Json.maxDepth) with
      | some answer => .ok answer
      | none => .error .unreadable

/-- The target of one object of a collection; it needs a name. -/
def objectTarget (collection name : String) : Except ClientError String :=
  if name = "" then .error (.unsendable .emptyName) else .ok s!"{collection}/{name}"

/-! ## Documents in replies -/

/-- What is known about a list besides its items. -/
def listMetadata : Shape :=
  .fields
    [("continue", .text), ("remainingItemCount", .signed 64), ("resourceVersion", .text),
      ("selfLink", .text)]

/-- The items of a list; `null` stands for no items. -/
def readItems? {α : Type} (item : Reading α) : Reading (List α)
  | room + 1, .array items => items.mapM (item room)
  | _, written => if Shape.isNull written then some [] else none

/-- The items in a document. What else there is has to have a value. -/
def itemsOf? {α : Type} (item : Reading α) : Reading (List α)
  | room + 1, .object fields => do
    let fields ← Shape.named? fields
    if let some metadata ← Shape.single? "metadata" fields then
      let _ ← listMetadata room metadata
    let others := fields.filter fun field => field.1 ≠ "metadata" && field.1 ≠ "items"
    let _ ← others.mapM fun field => field.2.value? room
    readItems? item room (← (← Shape.single? "items" fields))
  | _, _ => none

/-- Why a deletion was not carried out at once. -/
def deletionCauses : Shape :=
  .listOf (.tuple
    [{ key := "reason", shape := .text, default := some (.string "") },
      { key := "message", shape := .text, default := some (.string "") },
      { key := "field", shape := .text, default := some (.string "") }])

def deletionDetails : Shape :=
  .tuple
    [{ key := "name", shape := .text, default := some (.string "") },
      { key := "group", shape := .text, default := some (.string "") },
      { key := "kind", shape := .text, default := some (.string "") },
      { key := "uid", shape := .text, default := some (.string "") },
      { key := "causes", shape := deletionCauses, default := some (.array []) },
      { key := "retryAfterSeconds", shape := .unsigned 32, default := some (.int 0) }]

def deletionAccount : Shape :=
  .tuple
    [{ key := "status", shape := .nullOr (.word ["Success", "Failure"]), default := some .null },
      { key := "code", shape := .unsigned 16, default := some (.int 0) },
      { key := "message", shape := .text, default := some (.string "") },
      { key := "reason", shape := .text, default := some (.string "") },
      { key := "details", shape := .nullOr deletionDetails, default := some .null }]

/-- Whether a document answers a deletion: an account of it, or the deleted object. All of it has to
have a value. -/
def deletion? : Reading Unit := fun room written => do
  let value ← written.value? room
  if (value.field? "kind").bind Json.string? = some "Status" then
    let _ ← deletionAccount room written
  else
    let _ ← Object.read? room written

end BuildTrial.Api
