import BuildTrial.Resource
import BuildTrial.Text.Case
import BuildTrial.Text.Cut

/-!
# Where objects live

The type under which the API server knows each kind of resource, and the path of its collection: a
kind belongs to the whole cluster or to one namespace.
-/

namespace BuildTrial.Api

/-- A type of objects that the API server serves. -/
structure ServedType where
  /-- Empty for the core types. -/
  group : String
  version : String
  /-- Group and version as objects name them. -/
  apiVersion : String
  kind : String
  /-- The last part of the path of a collection. -/
  plural : String
deriving DecidableEq, Repr

/-- A type from the API version and the kind that its objects name. The plural just adds an `s`,
which is right for every type used here. -/
def ServedType.of (apiVersion kind : String) : ServedType :=
  let (group, version) := (Text.splitFirst? '/' apiVersion).getD ("", apiVersion)
  { group, version, apiVersion, kind, plural := Text.lower kind ++ "s" }

/-- The namespace of the operator that builds and rolls out images. -/
def operatorNamespace : String := "openshift-machine-config-operator"

/-- The namespace of the machines behind the nodes. -/
def machineNamespace : String := "openshift-machine-api"

/-- The namespace and the name of the pull secret of the cluster. -/
def pullSecretNamespace : String := "openshift-config"

def pullSecretName : String := "pull-secret"

/-- The path of a collection, in a namespace or across the cluster. -/
def ServedType.path (type : ServedType) (scope : Option String) : String :=
  let root := if type.group = "" then "api" else "apis"
  let scope := match scope with
    | some space => s!"namespaces/{space}/"
    | none => ""
  s!"/{root}/{type.apiVersion}/{scope}{type.plural}"

end BuildTrial.Api

namespace BuildTrial.Kind

open Api

/-- The type whose objects stand for resources of the kind. -/
def servedType : Kind → ServedType
  | .pool => .of "machineconfiguration.openshift.io/v1" "MachineConfigPool"
  | .configMap => .of "v1" "ConfigMap"
  | .secret => .of "v1" "Secret"
  | .imageRepository => .of "image.openshift.io/v1" "ImageStream"
  | .node => .of "v1" "Node"
  | .machine => .of "machine.openshift.io/v1beta1" "Machine"

/-- The namespace in which a trial keeps resources of the kind, if they have one. -/
def scope : Kind → Option String
  | .pool | .node => none
  | .configMap | .secret | .imageRepository => some operatorNamespace
  | .machine => some machineNamespace

def path (kind : Kind) : String := kind.servedType.path kind.scope

end BuildTrial.Kind
