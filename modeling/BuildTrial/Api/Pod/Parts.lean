import BuildTrial.Api.Object

/-!
# Common parts of pods

Shapes that occur in several places of a pod: selectors, references, and what runs or limits a
container.
-/

namespace BuildTrial.Api.Pod

open Shape

/-- An amount with a unit. -/
def quantity : Shape := text

def amounts : Shape := mapOf quantity

/-! ## Selectors -/

/-- A condition on the values of a key. -/
def requirement : Shape := fields [("key", text), ("operator", text), ("values", listOf text)]

def labelSelector : Shape :=
  fields [("matchExpressions", listOf requirement), ("matchLabels", mapOf text)]

/-! ## References -/

/-- An object of the same namespace. -/
def localReference : Shape := fields [("name", text)]

/-- A whole object, which need not exist. -/
def optionalReference : Shape := fields [("name", text), ("optional", flag)]

/-- A key of an object, which need not exist. -/
def keyReference : Shape := fields [("key", text), ("name", text), ("optional", flag)]

/-- A field of the pod itself. -/
def fieldReference : Shape := fields [("apiVersion", text), ("fieldPath", text)]

/-- An amount of one of its containers. -/
def resourceReference : Shape :=
  fields [("containerName", text), ("divisor", quantity), ("resource", text)]

/-! ## Limits -/

def resources : Shape :=
  fields
    [("claims", listOf (fields [("name", text), ("request", text)])), ("limits", amounts),
      ("requests", amounts)]

/-- A profile that confines processes. -/
def profile : Shape := fields [("localhostProfile", text), ("type", text)]

def selinuxOptions : Shape :=
  fields [("level", text), ("role", text), ("type", text), ("user", text)]

def windowsOptions : Shape :=
  fields
    [("gmsaCredentialSpec", text), ("gmsaCredentialSpecName", text), ("hostProcess", flag),
      ("runAsUserName", text)]

end BuildTrial.Api.Pod
