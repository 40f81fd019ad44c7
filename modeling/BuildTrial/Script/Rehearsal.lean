import BuildTrial.Rehearsal.Cluster
import BuildTrial.Script.Resource

/-!
# Rehearsals in scripts

The JSON form of what a rehearsal cluster starts with and of the state it ends in.
-/

namespace BuildTrial.Script

open Json Rehearsal

/-- A text, or nothing for anything else. -/
def optionalText (json : Json) : Option String := json.string?

/-- A key and a value as a list of two. -/
def pair? : Json → Option (String × String)
  | .array [.string key, .string value] => some (key, value)
  | _ => none

/-- An edit for a resource of the kind, if there is one of that name for it. -/
def edit? (kind : Kind) (name : String) (value : Json) : Option Edit :=
  match kind, name with
  | _, "rename" => value.string?.map .rename
  | _, "panic" => value.string?.map .panic
  | .pool, "set_label" | .node, "set_label" =>
    (pair? value).map fun (key, value) => .setLabel key value
  | .pool, "unset_label" | .node, "unset_label" => value.string?.map .unsetLabel
  | .pool, "count_label" | .node, "count_label" => value.string?.map .countLabel
  | .pool, "state" | .node, "state" => some (.state (optionalText value))
  | .pool, "image" | .node, "image" => some (.image (optionalText value))
  | .pool, "rendered" => some (.rendered (renderedOf? value))
  | .node, "machine" => some (.machine (optionalText value))
  | .configMap, "set" | .secret, "set" =>
    (pair? value).map fun (key, value) => .setEntry key value
  | .configMap, "unset" => value.string?.map .unsetEntry
  | .secret, "type" => value.string?.map .secretType
  | .imageRepository, "repository" => some (.repository (optionalText value))
  | _, _ => none

/-- A list of edits, each an object with one key. -/
def edits (kind : Kind) (json : Json) : List Edit :=
  (json.items?.getD []).flatMap fun item =>
    (item.fields?.getD []).filterMap fun (name, value) => edit? kind name value

def rule (kind : Kind) (json : Json) : Rule :=
  { script := (json.getItems "script").map (edits kind)
    repeatLast := json.getFlag "repeat_last"
    name := json.getText? "name"
    whenLabel := json.getText? "when_label"
    report := (json.get "report").bool? }

def rules (kind : Kind) (json : Json) : List Rule := (json.items?.getD []).map (rule kind)

def panic? (json : Json) : Option Panic := (json.getText? "panic").map .text

def fault? (json : Json) : Option Fault :=
  if json.isNull then none
  else match panic? json with
    | some payload => some (.panic payload)
    | none => some (.fail (error json))

/-- The faults of the methods that are given; those of the others stay as they are. -/
def faults (before : Faults) (json : Json) : Faults :=
  let queue (method : String) (old : List (Option Fault)) : List (Option Fault) :=
    match json.get method with
    | .array items => items.map fault?
    | _ => old
  { get := queue "get" before.get, list := queue "list" before.list
    create := queue "create" before.create, update := queue "update" before.update
    delete := queue "delete" before.delete }

/-- What a store starts with. -/
def store (kind : Kind) (json : Json) : Store kind :=
  let seeded : MemoryStore kind.Model (List Rule) :=
    .ofList ((json.getItems "seed").map (resource kind))
  { memory :=
      { seeded with
        reconciler := match json.get "reconciler" with
          | .array items => some (reconciler kind (items.map (rule kind)))
          | _ => none
        refusedDeletes := json.getTexts "fail_deletes"
        foreignWrites := json.getNat "writes" }
    faults := faults {} (json.get "faults") }

def pullSecret (json : Json) : Attempted Secret :=
  match panic? json with
  | some payload => .panicked payload
  | none =>
    if (json.field? "kind").isSome then .returned (.error (error json))
    else .returned (.ok (resource .secret json))

def execReply (json : Json) : Attempted String :=
  match json.getText? "output", panic? json with
  | some output, _ => .returned (.ok output)
  | none, some payload => .panicked payload
  | none, none => .returned (.error (error json))

/-- What a rehearsal cluster starts with. -/
def cluster (json : Json) : Cluster :=
  { pools := store .pool (json.get "pools")
    configMaps := store .configMap (json.get "config_maps")
    secrets := store .secret (json.get "secrets")
    imageRepositories := store .imageRepository (json.get "image_repositories")
    nodes := store .node (json.get "nodes")
    machines := store .machine (json.get "machines")
    pullSecret := pullSecret (json.get "pull_secret")
    executor := .scripted ((json.getItems "exec").map execReply) }

def showStore {kind : Kind} (s : Store kind) : Json :=
  .ofFields
    [("objects", .array (s.memory.objects.toList.map fun (key, entry) =>
        .array [.string key, showVersioned kind entry.snapshot])),
      ("gets", .ofNat s.memory.gets), ("updates", .ofNat s.memory.updateAttempts),
      ("created", .strings s.memory.created), ("deleted", .strings s.memory.deleted)]

def showCluster (c : Cluster) : Json :=
  .ofFields
    [("pools", showStore c.pools), ("config_maps", showStore c.configMaps),
      ("secrets", showStore c.secrets), ("image_repositories", showStore c.imageRepositories),
      ("nodes", showStore c.nodes), ("machines", showStore c.machines)]

end BuildTrial.Script
