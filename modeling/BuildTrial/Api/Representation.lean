import BuildTrial.Api.Address
import BuildTrial.Api.Object
import BuildTrial.Error

/-!
# Resources as objects

How each kind of resource stands in the objects of the cluster: what a resource reads from an object
(`Kind.read`), the object it is created as (`Kind.toObject`), and the parts of a live object it owns
and overwrites in an update (`Kind.writeTo`). A reference that is present but empty counts as
absent.
-/

namespace BuildTrial.Api

/-- The name of an object, which every resource needs. -/
def nameOf (kind : Kind) (object : Object) : Except Error String :=
  match object.metadata.name with
  | some name => .ok name
  | none => .error (.serialization "object has no metadata.name" (some kind.text))

def newObject (kind : Kind) (name : String) : Object :=
  { type := some ⟨kind.servedType.apiVersion, kind.servedType.kind⟩
    metadata := { name := some name } }

def nonEmptyText? (json : Json) (key : String) : Option String :=
  ((json.field? key).bind Json.string?).filter (· ≠ "")

/-- The refusal to update a resource that is only ever created, read or deleted. -/
def updateUnsupported (kind : Kind) (name : String) : Error :=
  .controlPlane s!"update {kind.text} {name}" "updates are not supported for this kind" false

/-! ## Pools -/

/-- The annotation with the image that the last successful build published. -/
def builtImageKey : String := "machineconfiguration.openshift.io/newestImageEquivalentConfig"

/-- The label that selects the configurations to merge for a pool. -/
def configRoleKey : String := "machineconfiguration.openshift.io/role"

/-- The role whose configurations every pool builds on. -/
def baseRole : String := "worker"

/-- Whether a condition says that it holds and is of the given type. -/
def isTrueCondition (type : String) (condition : Json) : Bool :=
  (condition.field? "type").bind Json.string? = some type &&
    (condition.field? "status").bind Json.string? = some "True"

/-- The build state that conditions tell: failure outranks success, and success outranks work in
progress. -/
def buildStateOf (conditions : List Json) : BuildState :=
  if conditions.any (isTrueCondition "BuildFailed") then .failed
  else if conditions.any (isTrueCondition "BuildSuccess") then .succeeded
  else if conditions.any (isTrueCondition "Building") then .building
  else .idle

/-- The merged configuration that the status of a pool names, with the names of its sources. -/
def renderedConfigOf? (status : Json) : Option RenderedConfig := do
  let configuration ← status.field? "configuration"
  let name ← nonEmptyText? configuration "name"
  let sources := ((configuration.field? "source").bind Json.items?).getD []
  return ⟨name, sources.filterMap fun source => (source.field? "name").bind Json.string?⟩

def readPool (object : Object) : Except Error Pool := do
  let name ← nameOf .pool object
  let status := (object.get? "status").getD .null
  return {
    name
    labels := object.labels
    state := buildStateOf (((status.field? "conditions").bind Json.items?).getD [])
    image := object.metadata.annotation? builtImageKey
    rendered := renderedConfigOf? status }

def poolObject (pool : Pool) : Object :=
  let selector : Json :=
    .ofFields [("matchExpressions", .array [.ofFields
      [("key", .string configRoleKey), ("operator", .string "In"),
        ("values", .strings [baseRole, pool.name])]])]
  let nodes : Json :=
    .ofFields [("matchLabels", .ofFields [(pool.roleLabel, .string "")])]
  ((newObject .pool pool.name).setLabels pool.labels).set "spec"
    (.ofFields [("machineConfigSelector", selector), ("nodeSelector", nodes)])

/-! ## Configuration maps and secrets -/

/-- Whether an object is of the type of a kind, or does not say, and its known fields have their
shapes. A type that the object does not know as a whole may still be there in part. -/
def isWellFormed (kind : Kind) (fields : List (String × Shape)) (object : Object) : Bool :=
  let type := kind.servedType
  object.type.all (fun known => known.apiVersion = type.apiVersion && known.kind = type.kind) &&
  (object.get? "apiVersion").all (fun value => value.string? = some type.apiVersion) &&
  (object.get? "kind").all (fun value => value.string? = some type.kind) &&
  fields.all fun (key, shape) => (object.get? key).all fun value =>
    (Shape.nullOr shape Json.maxDepth (.ofJson value)).isSome

/-- The error that an object is none of the kind. -/
def illFormed (kind : Kind) : Error :=
  .serialization s!"object is no {kind.servedType.kind}" (some kind.text)

def configMapFields : List (String × Shape) :=
  [("binaryData", .mapOf .bytes), ("data", .mapOf .text), ("immutable", .flag)]

def readConfigMap (object : Object) : Except Error ConfigMap := do
  if !isWellFormed .configMap configMapFields object then throw (illFormed .configMap)
  let name ← nameOf .configMap object
  return { name, data := ((object.get? "data").bind Metadata.textMap?).getD ∅ }

def writeConfigMap (map : ConfigMap) (object : Object) : Object :=
  object.set "data" (.ofStringMap map.data)

def secretFields : List (String × Shape) :=
  [("data", .mapOf .bytes), ("immutable", .flag), ("stringData", .mapOf .text), ("type", .text)]

/-- The bytes of an entry of a secret. -/
def entryBytes (value : Json) : List UInt8 :=
  (value.string?.bind fun s => Text.Base64.decode? s.toList).getD []

def secretData (object : Object) : StringMap (List UInt8) :=
  .ofList ((((object.get? "data").bind Json.fields?).getD []).map fun (key, value) =>
    (key, entryBytes value))

def readSecret (object : Object) : Except Error Secret := do
  if !isWellFormed .secret secretFields object then throw (illFormed .secret)
  let name ← nameOf .secret object
  return { name, type := ((object.get? "type").bind Json.string?).getD ""
           data := secretData object }

/-- The entries of a secret in base64. -/
def encodedData (data : StringMap (List UInt8)) : Json :=
  .object (data.toList.map fun (key, bytes) =>
    (key, .string (String.ofList (Text.Base64.encode bytes))))

def writeSecret (secret : Secret) (object : Object) : Object :=
  (object.set "type" (.string secret.type)).set "data" (encodedData secret.data)

/-! ## Image repositories -/

def readImageRepository (object : Object) : Except Error ImageRepository := do
  let name ← nameOf .imageRepository object
  return {
    name
    repository := nonEmptyText? ((object.get? "status").getD .null) "dockerImageRepository" }

/-! ## Nodes -/

/-- The annotation with the image that a node booted. -/
def bootedImageKey : String := "machineconfiguration.openshift.io/currentImage"

/-- The annotation with what the daemon of a node reports. -/
def nodeStateKey : String := "machineconfiguration.openshift.io/state"

/-- The annotation with the machine behind a node, led in by its namespace. -/
def nodeMachineKey : String := "machine.openshift.io/machine"

/-- A name without the namespace before it. -/
def withoutNamespace (reference : String) : String :=
  match Text.splitFirst? '/' reference with
  | some (_, name) => name
  | none => reference

def readNode (object : Object) : Except Error Node := do
  let name ← nameOf .node object
  return {
    name
    labels := object.labels
    image := object.metadata.annotation? bootedImageKey
    state := object.metadata.annotation? nodeStateKey
    machine := (object.metadata.annotation? nodeMachineKey).map withoutNamespace }

def readMachine (object : Object) : Except Error Machine := do
  return { name := ← nameOf .machine object }

end BuildTrial.Api

namespace BuildTrial.Kind

open Api

def read : (kind : Kind) → Object → Except Error kind.Model
  | .pool => readPool
  | .configMap => readConfigMap
  | .secret => readSecret
  | .imageRepository => readImageRepository
  | .node => readNode
  | .machine => readMachine

/-- The object as which a resource is created. What only the controllers report is left out. -/
def toObject : (kind : Kind) → kind.Model → Object
  | .pool => poolObject
  | .configMap => fun (map : ConfigMap) => writeConfigMap map (newObject .configMap map.name)
  | .secret => fun (secret : Secret) => writeSecret secret (newObject .secret secret.name)
  | .imageRepository => fun (repository : ImageRepository) =>
    (newObject .imageRepository repository.name).set "spec" (.object [])
  | .node => fun (node : Node) => (newObject .node node.name).setLabels node.labels
  | .machine => fun (machine : Machine) => newObject .machine machine.name

/-- A live object with the parts that the resource owns overwritten. -/
def writeTo : (kind : Kind) → kind.Model → Object → Except Error Object
  | .pool => fun (pool : Pool) object => .ok (object.setLabels pool.labels)
  | .configMap => fun (map : ConfigMap) object => .ok (writeConfigMap map object)
  | .secret => fun (secret : Secret) object => .ok (writeSecret secret object)
  | .imageRepository => fun (repository : ImageRepository) _ =>
    .error (updateUnsupported .imageRepository repository.name)
  | .node => fun (node : Node) object => .ok (object.setLabels node.labels)
  | .machine => fun (machine : Machine) _ => .error (updateUnsupported .machine machine.name)

end BuildTrial.Kind
