import BuildTrial.Mutate
import BuildTrial.Proofs.Store.Versions

/-!
# Contending for one object

Any number of clients update one object of one store at the same time, each by `mutate` with a
mutation and limits of its own, while others create, delete, put and update objects, a reconciler
acts before every read, and competing writes are simulated. `Contention` is the store and what each
client still has to do; a `Step` lets one of them go on, in any order, and says which writes it
commits under the name. What the object is then is never a matter of who read what and when.

A `Run` leaves open who goes on when. `play` takes given turns, so that a run on given data can be
computed (`run_of_play`).
-/

namespace BuildTrial

/-- What a computation came back with, if it came back. -/
def Outcome.answer? {α : Type} : Outcome α → Option α
  | .returned a => some a
  | .panicked _ => none

/-- A client that updates an object: how long it tries, and what it makes of a snapshot. -/
structure Mutator (T : Type) where
  config : RetryConfig
  mutation : T → Outcome T

/-- A committed write under a fixed name. -/
inductive Write (T : Type) where
  /-- The client with the given number applied its mutation. -/
  | mutated (client : Nat)
  /-- Someone else stored an object: by a creation, an update or a put, or the reconciler. -/
  | stored (object : T)
  | removed
deriving DecidableEq

/-- What a write makes of what is stored. -/
def Write.apply {T : Type} (mutators : List (Mutator T)) (current : Option T) :
    Write T → Option T
  | .mutated i => mutators[i]?.bind fun m => current.bind fun object => (m.mutation object).answer?
  | .stored object => some object
  | .removed => none

namespace MemoryStore

variable {T ρ : Type}

/-- The object under a name. -/
def objectAt (s : MemoryStore T ρ) (name : String) : Option T := s.objects[name]?.map (·.object)

/-- A write under `n`, if the store accepted it and `n` is the name. -/
def accepted {α : Type} (name n : String) (answer : Except Error α) (write : Write T) :
    List (Write T) :=
  if n = name ∧ answer.isOk then [write] else []

variable [DecidableEq T]

/-- What a read lets the reconciler commit under a name, from the stores before and after it. -/
def reconciled (name : String) (s s' : MemoryStore T ρ) : List (Write T) :=
  if s'.objectAt name = s.objectAt name then [] else ((s'.objectAt name).map .stored).toList

variable [Resource T]

/-- What a call commits under a name; an update counts as its author has it. -/
def writesOf (name : String) (author : T → Write T) (s : MemoryStore T ρ) :
    StoreCall T → List (Write T)
  | .get n => reconciled name s (s.get n).2
  | .list => reconciled name s s.list.2
  | .create object => accepted name (Resource.name object) (s.create object).1 (.stored object)
  | .update n desired expected =>
    accepted name n (s.update n desired expected).1 (author desired)
  | .delete n => accepted name n (s.delete n).1 .removed

end MemoryStore

/-- A store and what its clients still have to do. -/
structure Contention (T ρ : Type) where
  store : MemoryStore T ρ
  clients : List (StoreProgram T (Except Error (Versioned T)))

namespace Contention

variable {T ρ : Type}

/-- What each client came back with, if it ended well. -/
def answers (c : Contention T ρ) : List (Option (Versioned T)) :=
  c.clients.map fun
    | .done (.ok v) => some v
    | _ => none

theorem client_of_answers {c : Contention T ρ} {i : Nat} {v : Versioned T}
    (h : c.answers[i]? = some (some v)) : c.clients[i]? = some (.done (.ok v)) := by
  rw [answers, List.getElem?_map, Option.map_eq_some_iff] at h
  obtain ⟨p, hp, h⟩ := h
  split at h
  · cases h
    exact hp
  · cases h

variable [Resource T]

/-- No client has done anything yet. -/
def start (name : String) (mutators : List (Mutator T)) (store : MemoryStore T ρ) :
    Contention T ρ :=
  ⟨store, mutators.map fun m => mutate name m.config m.mutation⟩

variable [DecidableEq T]

/-- One step of one of those that use the store, with the writes that it commits under a name. -/
inductive Step (name : String) : Contention T ρ → List (Write T) → Contention T ρ → Prop where
  /-- A client makes its next call. -/
  | call {c : Contention T ρ} {i : Nat} {call : StoreCall T}
      {next : Attempted call.Answer → StoreProgram T (Except Error (Versioned T))}
      (h : c.clients[i]? = some (.ask (.call call) next)) :
      Step name c (c.store.writesOf name (fun _ => .mutated i) call)
        ⟨(c.store.serve call).2, c.clients.set i (next (c.store.serve call).1)⟩
  /-- A client sleeps, or asks for the time or a chance; it may be told anything. -/
  | time {c : Contention T ρ} {i : Nat} {query : (storeInterface T).timed.Query}
      {next : (storeInterface T).timed.Reply query →
        StoreProgram T (Except Error (Versioned T))}
      (hquery : ∀ call, query ≠ .call call) (h : c.clients[i]? = some (.ask query next))
      (reply : (storeInterface T).timed.Reply query) :
      Step name c [] { c with clients := c.clients.set i (next reply) }
  /-- Someone else makes a call. -/
  | outside (c : Contention T ρ) (call : StoreCall T) :
      Step name c (c.store.writesOf name .stored call)
        { c with store := (c.store.serve call).2 }
  /-- An object is put into the store. -/
  | put (c : Contention T ρ) (object : T) :
      Step name c (if Resource.name object = name then [.stored object] else [])
        { c with store := c.store.put object }
  /-- From now on so many reads race a competing write. -/
  | foreignWrites (c : Contention T ρ) (n : Nat) :
      Step name c [] { c with store := { c.store with foreignWrites := n } }
  /-- From now on these names cannot be deleted. -/
  | refuseDeletes (c : Contention T ρ) (names : List String) :
      Step name c [] { c with store := { c.store with refusedDeletes := names } }

/-- Any number of steps in any order, with the writes that they commit. -/
inductive Run (name : String) (c : Contention T ρ) :
    List (Write T) → Contention T ρ → Prop where
  | nil : Run name c [] c
  | step {c' c'' : Contention T ρ} {writes more : List (Write T)} (run : Run name c writes c')
      (step : Step name c' more c'') : Run name c (writes ++ more) c''

/-- A turn of one of those that use the store. -/
inductive Turn (T : Type) where
  /-- The client with the given number does what is next for it. -/
  | client (i : Nat)
  | outside (call : StoreCall T)
  | put (object : T)
  | foreignWrites (n : Nat)
  | refuseDeletes (names : List String)

/-- The step that a turn is, with its writes; none for a client that has nothing to do. A client that asks
for the time or a chance is told what a world at its start says. -/
def take (name : String) (c : Contention T ρ) :
    Turn T → Option (List (Write T) × Contention T ρ)
  | .client i =>
    match c.clients[i]? with
    | some (.ask (.call call) next) =>
      some (c.store.writesOf name (fun _ => .mutated i) call,
        ⟨(c.store.serve call).2, c.clients.set i (next (c.store.serve call).1)⟩)
    | some (.ask query next) =>
      let reply := (World.reply (I := storeInterface T) MemoryStore.serve query (.start c.store)).1
      some ([], { c with clients := c.clients.set i (next reply) })
    | _ => none
  | .outside call =>
    some (c.store.writesOf name .stored call, { c with store := (c.store.serve call).2 })
  | .put object =>
    some (if Resource.name object = name then [.stored object] else [],
      { c with store := c.store.put object })
  | .foreignWrites n => some ([], { c with store := { c.store with foreignWrites := n } })
  | .refuseDeletes names => some ([], { c with store := { c.store with refusedDeletes := names } })

/-- Take turn after turn, with the writes so far. -/
def play (name : String) :
    List (Turn T) → List (Write T) × Contention T ρ → Option (List (Write T) × Contention T ρ)
  | [], state => some state
  | turn :: turns, (writes, c) =>
    (c.take name turn).bind fun (more, c') => play name turns (writes ++ more, c')

/-- A client committed once: its mutation was applied to what was stored just before, and the
answer it got is what was stored just after. -/
def CommittedOnce (name : String) (i : Nat) (m : Mutator T) (v : Versioned T)
    (c₀ : Contention T ρ) (writes : List (Write T)) (c : Contention T ρ) : Prop :=
  ∃ before c₁ c₂ after object,
    Run name c₀ before c₁ ∧ Step name c₁ [.mutated i] c₂ ∧ Run name c₂ after c ∧
      writes = before ++ .mutated i :: after ∧ .mutated i ∉ before ∧ .mutated i ∉ after ∧
      c₁.store.objectAt name = some object ∧ m.mutation object = .returned v.object ∧
      c₂.store.peek? name = some v

theorem step_of_take {name : String} {c c' : Contention T ρ} {turn : Turn T}
    {writes : List (Write T)} (h : c.take name turn = some (writes, c')) :
    Step name c writes c' := by
  cases turn with
  | client i =>
    simp only [take] at h
    split at h
    · rename_i call next hnext
      cases h
      exact .call hnext
    · rename_i query next hquery hnext
      cases h
      exact .time (fun call hcall => by subst hcall; exact hquery _ _ rfl HEq.rfl) hnext _
    · cases h
  | outside call =>
    cases h
    exact .outside c call
  | put object =>
    cases h
    exact .put c object
  | foreignWrites n =>
    cases h
    exact .foreignWrites c n
  | refuseDeletes names =>
    cases h
    exact .refuseDeletes c names

/-- What is played is a run. -/
theorem run_of_play {name : String} {c₀ c c' : Contention T ρ} {turns : List (Turn T)}
    {writes writes' : List (Write T)} (run : Run name c₀ writes c)
    (h : play name turns (writes, c) = some (writes', c')) : Run name c₀ writes' c' := by
  induction turns generalizing writes c with
  | nil =>
    cases h
    exact run
  | cons turn turns ih =>
    obtain ⟨⟨more, c₁⟩, hturn, hrest⟩ := Option.bind_eq_some_iff.mp h
    exact ih (run.step (step_of_take hturn)) hrest

end Contention

/-! ## The writes of a call are all that it does to the object -/

namespace MemoryStore

variable {T ρ : Type} {s s' : MemoryStore T ρ} {name : String} {mutators : List (Mutator T)}

theorem objectAt_eq_none_iff : s.objectAt name = none ↔ name ∉ s.objects := by
  rw [objectAt, Option.map_eq_none_iff, mem_iff_isSome, Option.not_isSome_iff_eq_none]

theorem objectAt_commit (n : String) (object : T) :
    (s.commit n object).objectAt name = if n = name then some object else s.objectAt name := by
  rw [objectAt, getElem?_commit]
  split <;> rfl

theorem objectAt_erase (n : String) (deleted : List String) :
    ({ s with objects := s.objects.erase n, deleted } : MemoryStore T ρ).objectAt name =
      if n = name then none else s.objectAt name := by
  rw [objectAt, getElem?_erase]
  split <;> rfl

theorem objectAt_of_peek? {v : Versioned T} (h : s.peek? name = some v) :
    s.objectAt name = some v.object := by
  obtain ⟨entry, hentry, rfl⟩ := Option.map_eq_some_iff.mp h
  rw [objectAt, hentry]
  rfl

theorem foldl_accepted_ok {α : Type} (n : String) (a : α) (write : Write T)
    (current : Option T) :
    (accepted name n (.ok a) write).foldl (Write.apply mutators) current =
      if n = name then write.apply mutators current else current := by
  unfold accepted
  by_cases h : n = name
  · rw [if_pos ⟨h, rfl⟩, if_pos h]
    rfl
  · rw [if_neg fun hand => h hand.1, if_neg h]
    rfl

theorem accepted_error {α : Type} (n : String) (e : Error) (write : Write T) :
    accepted name n (.error e : Except Error α) write = [] :=
  if_neg fun hand => absurd hand.2 (by simp [Except.isOk, Except.toBool])

theorem not_mem_accepted {α : Type} {n : String} {answer : Except Error α}
    {write other : Write T} (h : write ≠ other) : other ∉ accepted name n answer write := by
  unfold accepted
  split
  · rw [List.mem_singleton]
    exact h.symm
  · exact List.not_mem_nil

variable [DecidableEq T]

theorem objectAt_reconciled (h : name ∈ s'.objects ↔ name ∈ s.objects) :
    s'.objectAt name = (reconciled name s s').foldl (Write.apply mutators) (s.objectAt name) := by
  unfold reconciled
  by_cases hsame : s'.objectAt name = s.objectAt name
  · rw [if_pos hsame]
    exact hsame
  · rw [if_neg hsame]
    cases hobject : s'.objectAt name with
    | some object => rfl
    | none =>
      -- a reconciler removes nothing, so there was nothing before either
      rw [objectAt_eq_none_iff, h, ← objectAt_eq_none_iff] at hobject
      rw [hobject]
      rfl

variable [Resource T]

@[simp] theorem writesOf_update (author : T → Write T) (n : String) (desired : T) (expected : String) :
    s.writesOf name author (.update n desired expected) =
      accepted name n (s.update n desired expected).1 (author desired) := rfl

/-- What is stored after a call, if an update is what its author has it. -/
theorem objectAt_serve {author : T → Write T} (call : StoreCall T)
    (hauthor : ∀ desired expected v, call = .update name desired expected →
      (s.update name desired expected).1 = .ok v →
        (author desired).apply mutators (s.objectAt name) = some desired) :
    (s.serve call).2.objectAt name =
      (s.writesOf name author call).foldl (Write.apply mutators) (s.objectAt name) := by
  cases call with
  | get n => exact objectAt_reconciled (mem_get_iff s n name)
  | list => exact objectAt_reconciled (mem_list_iff s name)
  | create object =>
    rw [serve_create, writesOf]
    rcases create_cases s object with ⟨_, heq⟩ | ⟨-, heq⟩
    · rw [heq, accepted_error]
      rfl
    · rw [heq, foldl_accepted_ok]
      exact objectAt_commit _ object
  | update n desired expected =>
    rw [serve_update, writesOf_update]
    rcases update_cases s n desired expected with ⟨_, heq⟩ | ⟨_, -, -, heq⟩
    · rw [heq, accepted_error]
      rfl
    · rw [heq, foldl_accepted_ok]
      refine (objectAt_commit n desired).trans ?_
      by_cases hname : n = name
      · subst hname
        rw [if_pos rfl, if_pos rfl]
        exact (hauthor desired expected _ rfl (by rw [heq])).symm
      · -- a write to another name is none to this one
        rw [if_neg hname, if_neg hname]
        rfl
  | delete n =>
    rw [serve_delete, writesOf]
    rcases delete_cases s n with ⟨_, heq⟩ | ⟨-, heq⟩
    · rw [heq, accepted_error]
      rfl
    · rw [heq, foldl_accepted_ok]
      exact objectAt_erase n _

/-- Only an update of its own is a write of a client. -/
theorem mutated_not_mem_writesOf {author : T → Write T} {i : Nat}
    (hauthor : ∀ desired, author desired ≠ .mutated i) (call : StoreCall T) :
    .mutated i ∉ s.writesOf name author call := by
  have hreconciled : ∀ s' : MemoryStore T ρ, .mutated i ∉ reconciled name s s' := by
    intro s'
    unfold reconciled
    split
    · exact List.not_mem_nil
    · cases s'.objectAt name <;> simp
  cases call with
  | get n => exact hreconciled _
  | list => exact hreconciled _
  | create object => exact not_mem_accepted (by simp)
  | update n desired expected => exact not_mem_accepted (hauthor desired)
  | delete n => exact not_mem_accepted (by simp)

end MemoryStore

end BuildTrial
