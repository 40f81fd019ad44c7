import BuildTrial.Kubeconfig.Layout

/-!
# Kubeconfigs

A kubeconfig names clusters, users and contexts. A context is a cluster with a user, and one of the
contexts is current. A file may hold several kubeconfigs, which are merged: what comes first counts,
and later ones only add to it.
-/

namespace BuildTrial

/-- A list of things by their names. What is named may be left out. -/
abbrev NamedList (α : Type) : Type := List (String × Option α)

namespace NamedList

variable {α : Type}

/-- The first thing with the name, if it was not left out. -/
def get? (named : NamedList α) (name : String) : Option α := (List.lookup name named).join

/-- Add the things whose names are new. -/
def extend (named more : NamedList α) : NamedList α :=
  named ++ more.filter fun entry => !named.any (·.1 = entry.1)

end NamedList

namespace Kubeconfig

/-- How a cluster is reached, and how it is recognized. -/
structure Cluster where
  server : Option String := none
  /-- The path of the file with the certificates that the cluster is recognized by. -/
  authorityFile : Option String := none
  /-- Those certificates themselves in base64, which count instead of the file. -/
  authorityData : Option String := none
  proxy : Option String := none
deriving DecidableEq, Repr

structure Context where
  cluster : String
  user : Option String := none
deriving DecidableEq, Repr

structure User where
  /-- Whether a program provides the credentials that is told about the cluster. -/
  isToldCluster : Bool := false
deriving DecidableEq, Repr

end Kubeconfig

structure Kubeconfig where
  kind : Option String := none
  apiVersion : Option String := none
  currentContext : Option String := none
  clusters : NamedList Kubeconfig.Cluster := []
  users : NamedList Kubeconfig.User := []
  contexts : NamedList Kubeconfig.Context := []

namespace Kubeconfig

open Yaml (Value Mismatch ValueFault)

/-! ## Reading -/

namespace Cluster

def ofValue (value : Value) : Cluster where
  server := (value.get "server").text?
  authorityFile := (value.get "certificate-authority").text?
  authorityData := (value.get "certificate-authority-data").text?
  proxy := (value.get "proxy-url").text?

end Cluster

namespace Context

def ofValue (value : Value) : Context where
  cluster := (value.get "cluster").text?.getD ""
  user := (value.get "user").text?

end Context

namespace User

def ofValue (value : Value) : User where
  isToldCluster := ((value.get "exec").get "provideClusterInfo").isTrue

end User

/-- The things in a list of named ones, each of them under the given key. -/
def namedOfValue {α : Type} (key : String) (read : Value → α) (value : Value) : NamedList α :=
  value.items.map fun item =>
    ((item.get "name").text?.getD "", (item.get key).optional read)

/-- What a value with the layout of a kubeconfig says. -/
def ofValue (value : Value) : Kubeconfig where
  kind := (value.get "kind").text?
  apiVersion := (value.get "apiVersion").text?
  currentContext := (value.get "current-context").text?
  clusters := namedOfValue "cluster" Cluster.ofValue (value.get "clusters")
  users := namedOfValue "user" User.ofValue (value.get "users")
  contexts := namedOfValue "context" Context.ofValue (value.get "contexts")

/-! ## Merging -/

/-- Why a text is no kubeconfig. -/
inductive TextFault where
  | unparsed (fault : ValueFault)
  | misshapen (mismatch : Mismatch)
  | differentKinds
  | differentVersions

def TextFault.message : TextFault → String
  | .unparsed fault => s!"failed to parse kubeconfig YAML: {fault.message}"
  | .misshapen mismatch =>
    s!"the structure of the parsed kubeconfig is invalid: {mismatch.message}"
  | .differentKinds => "kubeconfigs with mismatching kind cannot be merged"
  | .differentVersions => "kubeconfigs with mismatching api version cannot be merged"

/-- Whether two texts are there and differ. -/
def disagree (a b : Option String) : Bool := a.isSome && b.isSome && a ≠ b

/-- A kubeconfig with what another one adds to it. -/
def merge (first more : Kubeconfig) : Except TextFault Kubeconfig :=
  if disagree first.kind more.kind then .error .differentKinds
  else if disagree first.apiVersion more.apiVersion then .error .differentVersions
  else
    .ok {
      kind := first.kind.or more.kind
      apiVersion := first.apiVersion.or more.apiVersion
      currentContext := first.currentContext.or more.currentContext
      clusters := first.clusters.extend more.clusters
      users := first.users.extend more.users
      contexts := first.contexts.extend more.contexts }

def ofDocument (value : Value) : Except TextFault Kubeconfig := do
  (Layout.kubeconfig value).mapError .misshapen
  return ofValue value

/-- The kubeconfig of a text, merged from all of its documents. -/
def parse (s : String) : Except TextFault Kubeconfig := do
  let documents ← (Value.parseAll s).mapError .unparsed
  match ← documents.mapM ofDocument with
  | [] => return {}
  | first :: rest => rest.foldlM merge first

end Kubeconfig

end BuildTrial
