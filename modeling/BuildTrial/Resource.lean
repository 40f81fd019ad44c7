import Std.Data.ExtTreeMap
import BuildTrial.Error

/-!
# Resources

The objects that a trial reads and writes, each reduced to the fields it looks at or changes:
pools of nodes that share an image, configuration maps, secrets, image repositories, nodes and the
machines behind them. Maps are extensional, so two resources with the same entries are equal.
-/

namespace BuildTrial

/-- A finite map from texts, in the order of its keys. -/
abbrev StringMap (β : Type) : Type := Std.ExtTreeMap String β compare

/-- A kind of object that its store finds by name. -/
class Resource (T : Type) where
  /-- The kind, as errors and reports name it. -/
  kindName : String
  name : T → String

/-- The part of a name before which a role is a node label. -/
def nodeRoleLabelStart : String := "node-role.kubernetes.io/"

/-- The label that gives a node the role. -/
def nodeRoleLabel (role : String) : String := nodeRoleLabelStart ++ role

/-- The label that opts a pool into image builds. -/
def layeringLabel : String := "machineconfiguration.openshift.io/layering-enabled"

/-- How far the controller has come with the image of a pool. -/
inductive BuildState where
  /-- No build was asked for or has started. -/
  | idle
  | building
  | succeeded
  | failed
deriving DecidableEq, Repr, Inhabited

def BuildState.text : BuildState → String
  | .idle => "Idle"
  | .building => "Building"
  | .succeeded => "Succeeded"
  | .failed => "Failed"

/-- The state with the given name, if there is one. -/
def BuildState.ofText? (s : String) : Option BuildState :=
  [BuildState.idle, .building, .succeeded, .failed].find? (·.text = s)

/-- The merged configuration that a pool is to boot. -/
structure RenderedConfig where
  name : String
  /-- Names of the configurations merged into it. -/
  sources : List String
deriving DecidableEq, Repr

/-- A named group of nodes; its name is also the role that puts a node into it. -/
structure Pool where
  name : String
  labels : StringMap String := ∅
  state : BuildState := .idle
  /-- The image that the last successful build published. -/
  image : Option String := none
  rendered : Option RenderedConfig := none
deriving DecidableEq

structure ConfigMap where
  name : String
  data : StringMap String := ∅
deriving DecidableEq

/-- Credentials. -/
structure Secret where
  name : String
  type : String := ""
  data : StringMap (List UInt8) := ∅
deriving DecidableEq

/-- Where built images are pushed to. -/
structure ImageRepository where
  name : String
  /-- The reference under which the registry serves it, once assigned. -/
  repository : Option String := none
deriving DecidableEq

structure Node where
  name : String
  labels : StringMap String := ∅
  /-- The image that the node booted. -/
  image : Option String := none
  /-- What the daemon on the node reports about itself. -/
  state : Option String := none
  /-- The machine behind the node. -/
  machine : Option String := none
deriving DecidableEq

structure Machine where
  name : String
deriving DecidableEq

instance : Resource Pool := ⟨"Pool", Pool.name⟩
instance : Resource ConfigMap := ⟨"ConfigMap", ConfigMap.name⟩
instance : Resource Secret := ⟨"Secret", Secret.name⟩
instance : Resource ImageRepository := ⟨"ImageRepository", ImageRepository.name⟩
instance : Resource Node := ⟨"Node", Node.name⟩
instance : Resource Machine := ⟨"Machine", Machine.name⟩

/-- A kind of resource whose labels a trial changes. -/
class Labelled (T : Type) extends Resource T where
  labels : T → StringMap String
  setLabels : T → StringMap String → T

instance : Labelled Pool where
  labels := Pool.labels
  setLabels pool labels := { pool with labels }

instance : Labelled Node where
  labels := Node.labels
  setLabels node labels := { node with labels }

/-- Put an empty label on an object. -/
def addLabel {T : Type} [Labelled T] (label : String) (object : T) : T :=
  Labelled.setLabels object ((Labelled.labels object).insert label "")

def removeLabel {T : Type} [Labelled T] (label : String) (object : T) : T :=
  Labelled.setLabels object ((Labelled.labels object).erase label)

/-- The label that puts a node into the pool. -/
def Pool.roleLabel (pool : Pool) : String := nodeRoleLabel pool.name

def Pool.hasLabel (pool : Pool) (key : String) : Bool := pool.labels.contains key

/-- The reference of the latest image in the repository; none before one is assigned. -/
def ImageRepository.pullspec? (repository : ImageRepository) : Option String :=
  match repository.repository with
  | some reference => if reference = "" then none else some (reference ++ ":latest")
  | none => none

/-- The same credentials under another name. -/
def Secret.cloneAs (secret : Secret) (name : String) : Secret := { secret with name }

/-- What the daemon of a node reports when it cannot reach its configuration. -/
def degradedState : String := "Degraded"

def Node.hasRole (node : Node) (role : String) : Bool := node.labels.contains (nodeRoleLabel role)

def Node.isDegraded (node : Node) : Bool := node.state = some degradedState

/-- The kinds of resources, each with a store of its own on a control plane. -/
inductive Kind where
  | pool
  | configMap
  | secret
  | imageRepository
  | node
  | machine
deriving DecidableEq, Repr

namespace Kind

@[reducible] def Model : Kind → Type
  | .pool => Pool
  | .configMap => ConfigMap
  | .secret => Secret
  | .imageRepository => ImageRepository
  | .node => Node
  | .machine => Machine

instance instResourceModel : (k : Kind) → Resource k.Model
  | .pool => inferInstanceAs (Resource Pool)
  | .configMap => inferInstanceAs (Resource ConfigMap)
  | .secret => inferInstanceAs (Resource Secret)
  | .imageRepository => inferInstanceAs (Resource ImageRepository)
  | .node => inferInstanceAs (Resource Node)
  | .machine => inferInstanceAs (Resource Machine)

instance instDecidableEqModel : (k : Kind) → DecidableEq k.Model
  | .pool => inferInstanceAs (DecidableEq Pool)
  | .configMap => inferInstanceAs (DecidableEq ConfigMap)
  | .secret => inferInstanceAs (DecidableEq Secret)
  | .imageRepository => inferInstanceAs (DecidableEq ImageRepository)
  | .node => inferInstanceAs (DecidableEq Node)
  | .machine => inferInstanceAs (DecidableEq Machine)

def all : List Kind := [.pool, .configMap, .secret, .imageRepository, .node, .machine]

def text (k : Kind) : String := Resource.kindName k.Model

def ofText? (s : String) : Option Kind := all.find? (·.text = s)

end Kind

end BuildTrial
