import BuildTrial.Json
import BuildTrial.Retry
import BuildTrial.Store
import BuildTrial.Text.Bytes

/-!
# Resources in scripts

The JSON form of resources, errors and retry settings in which trials are scripted and their results
are shown. Reading is lenient: a field that is missing or `null` is empty.
-/

namespace BuildTrial

namespace Json

/-- The value of a field, `null` if it is missing. -/
def get (key : String) (json : Json) : Json := (json.field? key).getD .null

def getText (key : String) (json : Json) : String := ((json.get key).string?).getD ""

def getText? (key : String) (json : Json) : Option String := (json.get key).string?

def getFlag (key : String) (json : Json) : Bool := ((json.get key).bool?).getD false

def getNat? (key : String) (json : Json) : Option Nat :=
  (json.get key).int?.bind fun value => if 0 ≤ value then some value.toNat else none

def getNat (key : String) (json : Json) : Nat := (json.getNat? key).getD 0

def getItems (key : String) (json : Json) : List Json := ((json.get key).items?).getD []

def getFields (key : String) (json : Json) : Fields := ((json.get key).fields?).getD []

def getTexts (key : String) (json : Json) : List String := (json.getItems key).filterMap string?

def getTextMap (key : String) (json : Json) : StringMap String :=
  .ofList ((json.getFields key).map fun (key, value) => (key, value.string?.getD ""))

end Json

namespace Script

open Json

def renderedOf? (json : Json) : Option RenderedConfig :=
  if json.isNull then none else some ⟨json.getText "name", json.getTexts "sources"⟩

def bytesOf (text : String) : List UInt8 := (Text.bytesOfHex? text.toList).getD []

def resource : (kind : Kind) → Json → kind.Model
  | .pool, json =>
    { name := json.getText "name", labels := json.getTextMap "labels"
      state := ((json.getText? "state").bind BuildState.ofText?).getD .idle
      image := json.getText? "image", rendered := renderedOf? (json.get "rendered") : Pool }
  | .configMap, json =>
    { name := json.getText "name", data := json.getTextMap "data" : ConfigMap }
  | .secret, json =>
    { name := json.getText "name", type := json.getText "type"
      data := .ofList ((json.getFields "data").map fun (key, value) =>
        (key, bytesOf (value.string?.getD ""))) : Secret }
  | .imageRepository, json =>
    { name := json.getText "name", repository := json.getText? "repository" : ImageRepository }
  | .node, json =>
    { name := json.getText "name", labels := json.getTextMap "labels"
      image := json.getText? "image", state := json.getText? "state"
      machine := json.getText? "machine" : Node }
  | .machine, json => { name := json.getText "name" : Machine }

/-- A resource of a kind, with every field. -/
def showResource : (kind : Kind) → kind.Model → Json
  | .pool, (pool : Pool) =>
    .ofFields
      [("name", .string pool.name), ("labels", .ofStringMap pool.labels),
        ("state", .string pool.state.text), ("image", .ofOption .string pool.image),
        ("rendered", .ofOption (fun config =>
          .ofFields [("name", .string config.name), ("sources", .strings config.sources)])
          pool.rendered)]
  | .configMap, (map : ConfigMap) =>
    .ofFields [("name", .string map.name), ("data", .ofStringMap map.data)]
  | .secret, (secret : Secret) =>
    .ofFields
      [("name", .string secret.name), ("type", .string secret.type),
        ("data", .object (secret.data.toList.map fun (key, bytes) =>
          (key, .string (Text.hexOfBytes bytes))))]
  | .imageRepository, (repository : ImageRepository) =>
    .ofFields
      [("name", .string repository.name), ("repository", .ofOption .string repository.repository)]
  | .node, (node : Node) =>
    .ofFields
      [("name", .string node.name), ("labels", .ofStringMap node.labels),
        ("image", .ofOption .string node.image), ("state", .ofOption .string node.state),
        ("machine", .ofOption .string node.machine)]
  | .machine, (machine : Machine) => .ofFields [("name", .string machine.name)]

def showVersioned (kind : Kind) (snapshot : Versioned kind.Model) : Json :=
  .ofFields
    [("object", showResource kind snapshot.object), ("version", .string snapshot.version)]

/-- An error, given by its kind and the fields of that kind; any other kind is internal. -/
def error (json : Json) : Error :=
  let resource := json.getText "resource"
  let name := json.getText "name"
  let message := json.getText "message"
  match json.getText "kind" with
  | "Conflict" => .conflict resource name message
  | "ConflictExhausted" => .conflictExhausted resource name (json.getNat "attempts")
  | "NotFound" => .notFound resource name
  | "AlreadyExists" => .alreadyExists resource name
  | "Timeout" =>
    .timeout (json.getText "description")
      (.ofSecs (json.getNat "secs") + ⟨json.getNat "nanos"⟩)
  | "Unrecoverable" => .unrecoverable (json.getText "description") (json.getText "reason")
  | "ControlPlane" =>
    .controlPlane (json.getText "context") message (json.getFlag "retryable")
  | "Exec" => .exec (json.getText "node") message
  | "Validation" => .validation message (json.getText? "field")
  | "Serialization" => .serialization message (json.getText? "resource")
  | "Cleanup" => .cleanupFailed (json.getTexts "failed")
  | _ => .internal ((json.getText? "context").getD "unknown") message

/-- A number, or the name of one that JSON cannot write. -/
def number : Json → Binary64
  | .float value => value
  | .int value => .ofDecimal (value < 0) value.natAbs 0
  | .string "NaN" => .nan
  | .string "inf" => .infinite false
  | .string "-inf" => .infinite true
  | _ => .zero

/-- Retry settings: those for conflicts unless something is given, a limit on the attempts, or every
setting. -/
def retryConfig : Json → RetryConfig
  | .null => .forConflicts
  | .string _ => .endless
  | .int attempts => .withMaxAttempts attempts.toNat
  | json =>
    { maxAttempts := json.getNat "max_attempts"
      initialDelay := .ofMillis (json.getNat "initial_ms")
      maxDelay := .ofMillis (json.getNat "max_ms")
      multiplier := number (json.get "multiplier") }

end Script

end BuildTrial
