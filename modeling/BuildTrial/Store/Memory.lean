import BuildTrial.Store

/-!
# A store in memory

A control plane for one kind of resource. Every commit takes the next number of one counter as the
version of the object, so a version is never used again, not even for another object or after a
deletion. A reconciler looks at every object before each read, as a controller would, and writes of
a competitor can be simulated: each moves a version on right after a read.
-/

namespace BuildTrial

/-- An object as it is stored. -/
structure Entry (T : Type) where
  object : T
  version : Nat
deriving DecidableEq

def Entry.snapshot {T : Type} (entry : Entry T) : Versioned T :=
  ⟨entry.object, toString entry.version⟩

/-- What acts on the objects of a store before each read: it may change an object, says whether it
did, and may panic; `ρ` is what it remembers from one object to the next. -/
structure Reconciler (T ρ : Type) where
  memory : ρ
  act : ρ → T → ρ × T × Outcome Bool

structure MemoryStore (T ρ : Type) where
  objects : StringMap (Entry T) := ∅
  /-- The version of the latest commit. -/
  counter : Nat := 0
  reconciler : Option (Reconciler T ρ) := none
  /-- How many of the next reads race a competing writer. -/
  foreignWrites : Nat := 0
  /-- Names of which every deletion is refused. -/
  refusedDeletes : List String := []
  /-- Number of `get` calls. -/
  gets : Nat := 0
  /-- Number of `update` calls. -/
  updateAttempts : Nat := 0
  /-- Names created, in order. -/
  created : List String := []
  /-- Names deleted, in order. -/
  deleted : List String := []

namespace MemoryStore

variable {T ρ : Type}

/-- Store an object under a name with a new version. -/
def commit (s : MemoryStore T ρ) (name : String) (object : T) : MemoryStore T ρ :=
  { s with
    counter := s.counter + 1
    objects := s.objects.insert name ⟨object, s.counter + 1⟩ }

/-- Give the object under a name, if there is one, a new version. -/
def touch (s : MemoryStore T ρ) (name : String) : MemoryStore T ρ :=
  { s with
    counter := s.counter + 1
    objects := s.objects.modify name fun entry => { entry with version := s.counter + 1 } }

/-- Replace the object under a name without a new version. -/
def setObject (s : MemoryStore T ρ) (name : String) (object : T) : MemoryStore T ρ :=
  { s with objects := s.objects.modify name fun entry => { entry with object } }

variable [Resource T]

/-- Store an object under its own name, as an outside writer would. -/
def put (s : MemoryStore T ρ) (object : T) : MemoryStore T ρ :=
  s.commit (Resource.name object) object

/-- A store that holds the given objects; of two with one name the later stays. -/
def ofList (objects : List T) : MemoryStore T ρ := objects.foldl put {}

/-- What is stored under a name, without the reconciler acting and without counting. -/
def peek? (s : MemoryStore T ρ) (name : String) : Option (Versioned T) :=
  s.objects[name]?.map Entry.snapshot

/-- Let the reconciler act on the objects with the given names, in order. An object it reports to
have changed gets a new version. If it panics it is lost, and what it did so far stays. -/
def reconcileAll (r : Reconciler T ρ) :
    MemoryStore T ρ → List String → Outcome Unit × MemoryStore T ρ
  | s, [] => (.returned (), { s with reconciler := some r })
  | s, name :: names =>
    match s.objects[name]? with
    | none => reconcileAll r s names
    | some entry =>
      let (memory, object, outcome) := r.act r.memory entry.object
      -- what the reconciler did stays, even if it says nothing or panics
      let s := s.setObject name object
      match outcome with
      | .panicked payload => (.panicked payload, { s with reconciler := none })
      | .returned changed =>
        reconcileAll { r with memory } (if changed then s.touch name else s) names

/-- Let the reconciler, if there is one, act on every object in the order of the names. -/
def reconcile (s : MemoryStore T ρ) : Outcome Unit × MemoryStore T ρ :=
  match s.reconciler with
  | none => (.returned (), s)
  | some r => reconcileAll r s s.objects.keys

/-- The next pending foreign write, if any, hits the object that was read. -/
def race (s : MemoryStore T ρ) (name : String) : MemoryStore T ρ :=
  if s.foreignWrites = 0 then s
  else { s with foreignWrites := s.foreignWrites - 1 }.touch name

def get (s : MemoryStore T ρ) (name : String) : Attempted (Versioned T) × MemoryStore T ρ :=
  match { s with gets := s.gets + 1 }.reconcile with
  | (.panicked payload, s) => (.panicked payload, s)
  | (.returned (), s) =>
    match s.objects[name]? with
    | none => (.returned (.error (.notFound (Resource.kindName T) name)), s)
    | some entry => (.returned (.ok entry.snapshot), s.race name)

def list (s : MemoryStore T ρ) : Attempted (List (Versioned T)) × MemoryStore T ρ :=
  match s.reconcile with
  | (.panicked payload, s) => (.panicked payload, s)
  | (.returned (), s) => (.returned (.ok (s.objects.values.map Entry.snapshot)), s)

def create (s : MemoryStore T ρ) (object : T) : Except Error (Versioned T) × MemoryStore T ρ :=
  let name := Resource.name object
  if s.objects.contains name then (.error (.alreadyExists (Resource.kindName T) name), s)
  else
    let s := s.commit name object
    (.ok ⟨object, toString s.counter⟩, { s with created := s.created ++ [name] })

def update (s : MemoryStore T ρ) (name : String) (desired : T) (expected : String) :
    Except Error (Versioned T) × MemoryStore T ρ :=
  let s := { s with updateAttempts := s.updateAttempts + 1 }
  match s.objects[name]? with
  | none => (.error (.notFound (Resource.kindName T) name), s)
  | some entry =>
    if toString entry.version = expected then
      let s := s.commit name desired
      (.ok ⟨desired, toString s.counter⟩, s)
    else
      (.error (.conflict (Resource.kindName T) name
        s!"expected version {expected} but stored version is {entry.version}"), s)

def delete (s : MemoryStore T ρ) (name : String) : Except Error Unit × MemoryStore T ρ :=
  if name ∈ s.refusedDeletes then
    (.error (.controlPlane s!"delete {Resource.kindName T}" s!"refusing to delete {name}" false), s)
  else if s.objects.contains name then
    (.ok (), { s with objects := s.objects.erase name, deleted := s.deleted ++ [name] })
  else (.error (.notFound (Resource.kindName T) name), s)

def serve (call : StoreCall T) (s : MemoryStore T ρ) :
    Attempted call.Answer × MemoryStore T ρ :=
  match call with
  | .get name => s.get name
  | .list => s.list
  | .create object => (s.create object).map .returned id
  | .update name desired expected => (s.update name desired expected).map .returned id
  | .delete name => (s.delete name).map .returned id

end MemoryStore

end BuildTrial
