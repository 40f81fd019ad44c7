import BuildTrial.Api.Shape
import BuildTrial.Resource

/-!
# Objects of the cluster

What the API server stores and hands out: a type, metadata, and whatever else belongs to the kind.
An update has to send the whole object back, so an `Object` keeps everything that it was read with,
in normal form; only the metadata that a trial looks at has fields of its own.
-/

namespace BuildTrial.Api

/-- The API version and the kind that an object says it has. -/
structure TypeName where
  apiVersion : String
  kind : String
deriving DecidableEq, Repr

structure Metadata where
  name : Option String := none
  /-- The version of the object; every commit gives it a new one. -/
  resourceVersion : Option String := none
  labels : Option (StringMap String) := none
  annotations : Option (StringMap String) := none
  /-- All other metadata, in normal form. -/
  others : Json.Fields := []

structure Object where
  /-- Known only with both its parts. -/
  type : Option TypeName
  metadata : Metadata := {}
  /-- Every other part of the object, in the order of the keys. -/
  content : Json.Fields := []

namespace Metadata

/-- A map from texts to texts in normal form. -/
def textMap? (json : Json) : Option (StringMap String) := do
  let entries ← (← json.fields?).mapM fun (key, value) => do return (key, ← value.string?)
  return .ofList entries

/-- A manager of some fields of the object, and the owner of it. -/
def managerShape : Shape :=
  .fields
    [("apiVersion", .text), ("fieldsType", .text), ("fieldsV1", .anything), ("manager", .text),
      ("operation", .text), ("subresource", .text), ("time", .moment)]

/-- Another object that this one goes away with. -/
def ownerShape : Shape :=
  .record
    [{ key := "apiVersion", shape := .text, default := some (.string "") },
      { key := "blockOwnerDeletion", shape := .flag }, { key := "controller", shape := .flag },
      { key := "kind", shape := .text, default := some (.string "") },
      { key := "name", shape := .text, default := some (.string "") },
      { key := "uid", shape := .text, default := some (.string "") }]

def shape : Shape :=
  .fields
    [("annotations", .mapOf .text), ("creationTimestamp", .moment),
      ("deletionGracePeriodSeconds", .signed 64), ("deletionTimestamp", .moment),
      ("finalizers", .listOf .text), ("generateName", .text), ("generation", .signed 64),
      ("labels", .mapOf .text), ("managedFields", .listOf managerShape), ("name", .text),
      ("namespace", .text), ("ownerReferences", .listOf ownerShape), ("resourceVersion", .text),
      ("selfLink", .text), ("uid", .text)]

/-- The metadata with a field of their own. -/
def ownKeys : List String := ["name", "resourceVersion", "labels", "annotations"]

def ofJson (json : Json) : Metadata :=
  { name := (json.field? "name").bind Json.string?
    resourceVersion := (json.field? "resourceVersion").bind Json.string?
    labels := (json.field? "labels").bind textMap?
    annotations := (json.field? "annotations").bind textMap?
    others := (json.fields?.getD []).filter fun field => !ownKeys.contains field.1 }

/-- The metadata in a document. Unknown fields are dropped. -/
def read? (room : Nat) (written : Written) : Option Metadata := (shape room written).map ofJson

def field {α : Type} (key : String) (write : α → Json) (value : Option α) : Json.Fields :=
  value.toList.map fun a => (key, write a)

def toJson (m : Metadata) : Json :=
  .ofFields
    (field "name" .string m.name ++ field "resourceVersion" .string m.resourceVersion ++
      field "labels" .ofStringMap m.labels ++ field "annotations" .ofStringMap m.annotations ++
      m.others)

/-- The value of an annotation; an empty one counts as absent. -/
def annotation? (m : Metadata) (key : String) : Option String :=
  (m.annotations.bind (·[key]?)).filter (· ≠ "")

end Metadata

namespace Object

/-- The type of an object and the fields that are left when it was looked for. Fields for its parts
are used up in their order, up to the first that is no text or stands a second time. -/
def takeType (apiVersion kind : Option String) : Json.Fields → Option TypeName × Json.Fields
  | [] => ((apiVersion.bind fun apiVersion => kind.map fun kind => ⟨apiVersion, kind⟩), [])
  | (key, value) :: rest =>
    if key = "apiVersion" then
      match apiVersion, value with
      | none, .string apiVersion => takeType (some apiVersion) kind rest
      | _, _ => (none, rest)
    else if key = "kind" then
      match kind, value with
      | none, .string kind => takeType apiVersion (some kind) rest
      | _, _ => (none, rest)
    else
      let (type, others) := takeType apiVersion kind rest
      (type, (key, value) :: others)

/-- The object that a document describes. It has metadata once at most. -/
def read? : (room : Nat) → Written → Option Object
  | room + 1, .object fields => do
    let fields ← Shape.named? fields
    let metadata ← match ← Shape.single? "metadata" fields with
      | none => some {}
      | some value => Metadata.read? room value
    let others ← (fields.filter (·.1 ≠ "metadata")).mapM fun (key, value) => do
      return (key, ← value.value? room)
    let (type, content) := takeType none none others
    return { type, metadata, content := Json.orderedFields content }
  | _, _ => none

def ofJson? (json : Json) : Option Object := read? Json.maxDepth (.ofJson json)

def toJson (object : Object) : Json :=
  .ofFields
    (Metadata.field "apiVersion" .string (object.type.map TypeName.apiVersion) ++
      Metadata.field "kind" .string (object.type.map TypeName.kind) ++
      ("metadata", object.metadata.toJson) :: object.content)

/-- A part of the object besides its type and metadata. -/
def get? (object : Object) (key : String) : Option Json := object.content.lookup key

def set (object : Object) (key : String) (value : Json) : Object :=
  { object with content := Json.setField key value object.content }

/-- The version of the object, empty if it has none. -/
def version (object : Object) : String := object.metadata.resourceVersion.getD ""

def labels (object : Object) : StringMap String := object.metadata.labels.getD ∅

def setLabels (object : Object) (labels : StringMap String) : Object :=
  { object with metadata := { object.metadata with labels := some labels } }

end Object

end BuildTrial.Api
