import BuildTrial.Json
import BuildTrial.Rehearsal.Rule

/-!
# The rehearsal cluster

A control plane for rehearsing scenarios without a cluster: a store in memory for each kind of
resource, with scripted controllers and with faults that hit chosen calls before they reach the
store, and scripted answers to everything else. Every call is written down in a log.
-/

namespace BuildTrial.Rehearsal

/-- What hits a call instead of the store. -/
inductive Fault where
  | fail (error : Error)
  | panic (payload : Panic)
deriving DecidableEq, Repr

/-- The faults of the next calls of each method; an entry may let its call pass. -/
structure Faults where
  get : List (Option Fault) := []
  list : List (Option Fault) := []
  create : List (Option Fault) := []
  update : List (Option Fault) := []
  delete : List (Option Fault) := []
deriving DecidableEq, Repr

/-- The calls so far, latest first. -/
abbrev Log : Type := List String

/-- A log in order, with equal lines that follow each other merged into one with their count. -/
def Log.merged (log : Log) : List String :=
  (log.foldl count []).map fun (line, n) => if n = 1 then line else s!"{line} x{n}"
where
  /-- Put a line in front of those after it. -/
  count (later : List (String × Nat)) (line : String) : List (String × Nat) :=
    match later with
    | (next, n) :: rest => if next = line then (next, n + 1) :: rest else (line, 1) :: later
    | [] => [(line, 1)]

/-- The store of one kind, with the faults ahead of it. Its reconciler remembers a `ρ`; a scripted
one remembers its rules. -/
structure Store (kind : Kind) (ρ : Type := List Rule) where
  memory : MemoryStore kind.Model ρ := {}
  faults : Faults := {}

/-- The method of a call and the name that it is about. -/
def describe (kind : Kind) : StoreCall kind.Model → String × String
  | .get name => ("get", name)
  | .list => ("list", "*")
  | .create object => ("create", Resource.name object)
  | .update name _ _ => ("update", name)
  | .delete name => ("delete", name)

/-- Take the fault that a call meets, if there is one. -/
def Faults.take {T : Type} (f : Faults) : StoreCall T → Option Fault × Faults
  | .get _ => (f.get.head?.join, { f with get := f.get.tail })
  | .list => (f.list.head?.join, { f with list := f.list.tail })
  | .create _ => (f.create.head?.join, { f with create := f.create.tail })
  | .update .. => (f.update.head?.join, { f with update := f.update.tail })
  | .delete _ => (f.delete.head?.join, { f with delete := f.delete.tail })

/-- How a call that came back ended. -/
def ending {α : Type} : Except Error α → String
  | .ok _ => "ok"
  | .error e => e.kind.text

/-- Serve a call on a store. A panic of the store itself leaves no line in the log. -/
def Store.serve {kind : Kind} {ρ : Type} (call : StoreCall kind.Model) (s : Store kind ρ)
    (log : Log) : Attempted call.Answer × Store kind ρ × Log :=
  let (method, name) := describe kind call
  let (fault, faults) := s.faults.take call
  match fault with
  | some (.fail e) =>
    (.returned (.error e), { s with faults },
      s!"{method} {kind.text} {name} -> {e.kind.text}" :: log)
  | some (.panic payload) =>
    (.panicked payload, { s with faults }, s!"{method} {kind.text} -> panic" :: log)
  | none =>
    let (reply, memory) := s.memory.serve call
    let log := match reply with
      | .returned result => s!"{method} {kind.text} {name} -> {ending result}" :: log
      | .panicked _ => log
    (reply, { memory, faults }, log)

/-- What runs commands on nodes; `ε` is what it remembers from one command to the next. -/
structure Executor (ε : Type) where
  memory : ε
  act : ε → String → List String → ε × Attempted String

namespace Executor

/-- Take the next entry of a list, whatever the command; past its end, commands print nothing. -/
def scripted (replies : List (Attempted String)) : Executor (List (Attempted String)) :=
  ⟨replies, fun replies _ _ => (replies.tail, replies.headD (.returned (.ok "")))⟩

def run {ε : Type} (x : Executor ε) (node : String) (command : List String) :
    Attempted String × Executor ε :=
  let (memory, reply) := x.act x.memory node command
  (reply, { x with memory })

end Executor

/-- A rehearsal cluster between two calls. What its reconcilers and its executor remember is left
open; in a scripted cluster it is what their scripts still hold. -/
structure Cluster (ρ : Kind → Type := fun _ => List Rule) (ε : Type := List (Attempted String)) where
  pools : Store .pool (ρ .pool) := {}
  configMaps : Store .configMap (ρ .configMap) := {}
  secrets : Store .secret (ρ .secret) := {}
  imageRepositories : Store .imageRepository (ρ .imageRepository) := {}
  nodes : Store .node (ρ .node) := {}
  machines : Store .machine (ρ .machine) := {}
  /-- What reading the pull secret of the cluster comes back with. -/
  pullSecret : Attempted Secret := .returned (.ok { name := "" })
  executor : Executor ε
  log : Log := []

namespace Cluster

variable {ρ : Kind → Type} {ε : Type}

def store (c : Cluster ρ ε) : (kind : Kind) → Store kind (ρ kind)
  | .pool => c.pools
  | .configMap => c.configMaps
  | .secret => c.secrets
  | .imageRepository => c.imageRepositories
  | .node => c.nodes
  | .machine => c.machines

def setStore (c : Cluster ρ ε) : (kind : Kind) → Store kind (ρ kind) → Cluster ρ ε
  | .pool, pools => { c with pools }
  | .configMap, configMaps => { c with configMaps }
  | .secret, secrets => { c with secrets }
  | .imageRepository, imageRepositories => { c with imageRepositories }
  | .node, nodes => { c with nodes }
  | .machine, machines => { c with machines }

def serve (call : PlaneCall) (c : Cluster ρ ε) : Attempted call.Answer × Cluster ρ ε :=
  match call with
  | .store kind call =>
    let (reply, store, log) := (c.store kind).serve call c.log
    (reply, { c with log }.setStore kind store)
  | .exec node command =>
    let (reply, executor) := c.executor.run node command
    (reply, { c with executor, log := s!"exec {node} {(Json.strings command).render}" :: c.log })
  | .pullSecret => (c.pullSecret, { c with log := "global_pull_secret" :: c.log })

@[simp] theorem store_setStore (c : Cluster ρ ε) (kind : Kind) (s : Store kind (ρ kind)) :
    (c.setStore kind s).store kind = s := by
  cases kind <;> rfl

theorem store_setStore_of_ne (c : Cluster ρ ε) {kind other : Kind} (s : Store kind (ρ kind))
    (h : other ≠ kind) : (c.setStore kind s).store other = c.store other := by
  cases kind <;> cases other <;> first | rfl | exact absurd rfl h

end Cluster

end BuildTrial.Rehearsal
