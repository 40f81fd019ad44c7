import BuildTrial.Proofs.Store.Entries

/-!
# What a version promises

A version is a number of the one counter of its store, and every commit takes the next one. So a
version that is still there means that nothing was committed under its name in between, not even a
deletion followed by another creation: a later entry would have a later version. This is the reason
why comparing versions is enough for optimistic updates.

It is put as a relation between two states of a store, `Follows`: each entry of the later state is
one of the earlier state or has a version that did not exist then. Every operation leads to a state
that follows (`follows_serve`), provided that the reconciler is honest: one that changes an object and
says nothing keeps the version of an object that is no longer the same. `Backs` is what a reader
relies on: the store backs a snapshot as long as its version, if it is still stored, belongs to the
object of the snapshot. Once a store backs a snapshot, every state that follows does
(`Backs.of_follows`).
-/

namespace BuildTrial

/-- A reconciler that never panics and that reports every change. -/
def Reconciler.Honest {T ρ : Type} (r : Reconciler T ρ) : Prop :=
  ∀ memory object, ∃ memory' object' changed,
    r.act memory object = (memory', object', .returned changed) ∧
      (object' ≠ object → changed = true)

namespace MemoryStore

variable {T ρ : Type}

/-- The reconciler of the store, if it has one, is honest. -/
def Honest (s : MemoryStore T ρ) : Prop := ∀ r, s.reconciler = some r → r.Honest

/-- No stored version is ahead of the counter. -/
def Bounded (s : MemoryStore T ρ) : Prop :=
  ∀ (n : String) (e : Entry T), s.objects[n]? = some e → e.version ≤ s.counter

/-- How a state of a store goes together with an earlier one. -/
structure Follows (s s' : MemoryStore T ρ) : Prop where
  counter : s.counter ≤ s'.counter
  /-- An entry is an old one, or its version is new. -/
  entry : ∀ (n : String) (e : Entry T), s'.objects[n]? = some e →
    s.objects[n]? = some e ∨ s.counter < e.version ∧ e.version ≤ s'.counter
  honest : s'.Honest

/-- The store backs a snapshot: while its version is stored, so is its object. -/
def Backs (s : MemoryStore T ρ) (name : String) (snapshot : Versioned T) : Prop :=
  ∃ version ≤ s.counter, snapshot.version = toString version ∧
    ∀ e : Entry T, s.objects[name]? = some e → e.version = version → e.object = snapshot.object

theorem Honest.of_reconciler_eq {s s' : MemoryStore T ρ} (h : s.Honest)
    (heq : s'.reconciler = s.reconciler) : s'.Honest := by
  intro r hr
  rw [heq] at hr
  exact h r hr

namespace Follows

variable {s s' s'' : MemoryStore T ρ}

theorem trans (h : Follows s s') (h' : Follows s' s'') : Follows s s'' := by
  refine ⟨Nat.le_trans h.counter h'.counter, ?_, h'.honest⟩
  intro n e he
  rcases h'.entry n e he with he | ⟨hnew, hle⟩
  · rcases h.entry n e he with he | ⟨hnew, hle⟩
    · exact .inl he
    · exact .inr ⟨hnew, Nat.le_trans hle h'.counter⟩
  · exact .inr ⟨Nat.lt_of_le_of_lt h.counter hnew, hle⟩

/-- Nothing happened to the entries. -/
theorem of_eq (honest : s.Honest) (hobjects : s'.objects = s.objects)
    (hcounter : s'.counter = s.counter) (hreconciler : s'.reconciler = s.reconciler) :
    Follows s s' := by
  refine ⟨Nat.le_of_eq hcounter.symm, ?_, honest.of_reconciler_eq hreconciler⟩
  intro n e he
  rw [hobjects] at he
  exact .inl he

theorem bounded (h : Follows s s') (hs : s.Bounded) : s'.Bounded := by
  intro n e he
  rcases h.entry n e he with he | ⟨-, hle⟩
  · exact Nat.le_trans (hs n e he) h.counter
  · exact hle

end Follows

theorem Backs.of_follows {s s' : MemoryStore T ρ} {name : String} {snapshot : Versioned T}
    (h : s.Backs name snapshot) (hf : Follows s s') : s'.Backs name snapshot := by
  obtain ⟨version, hle, hversion, hobject⟩ := h
  refine ⟨version, Nat.le_trans hle hf.counter, hversion, ?_⟩
  intro e he heq
  rcases hf.entry name e he with he | ⟨hnew, -⟩
  · exact hobject e he heq
  · -- the entry is newer than the snapshot
    omega

/-- A store backs what it holds. -/
theorem backs_of_entry {s : MemoryStore T ρ} {name : String} {entry : Entry T} (hs : s.Bounded)
    (h : s.objects[name]? = some entry) : s.Backs name entry.snapshot := by
  refine ⟨entry.version, hs name entry h, rfl, ?_⟩
  intro e he _
  rw [h] at he
  rw [← Option.some.inj he]
  rfl

/-! ## The operations -/

variable {s : MemoryStore T ρ}

theorem follows_commit (honest : s.Honest) (name : String) (object : T) :
    Follows s (s.commit name object) := by
  refine ⟨Nat.le_succ _, ?_, honest.of_reconciler_eq rfl⟩
  intro n e he
  rw [getElem?_commit] at he
  split at he
  · obtain rfl := Option.some.inj he
    exact .inr ⟨Nat.lt_succ_self _, Nat.le_refl _⟩
  · exact .inl he

theorem follows_touch (honest : s.Honest) (name : String) : Follows s (s.touch name) := by
  refine ⟨Nat.le_succ _, ?_, honest.of_reconciler_eq rfl⟩
  intro n e he
  rw [getElem?_touch] at he
  split at he
  · obtain ⟨_, -, rfl⟩ := Option.map_eq_some_iff.mp he
    exact .inr ⟨Nat.lt_succ_self _, Nat.le_refl _⟩
  · exact .inl he

/-- An object that is reported to have changed gets a new version; one that is not is the same. -/
theorem follows_reconciled (honest : s.Honest) {name : String} {entry : Entry T} {object : T}
    {changed : Bool} (hentry : s.objects[name]? = some entry)
    (hchanged : object ≠ entry.object → changed = true) :
    Follows s (if changed then (s.setObject name object).touch name
      else s.setObject name object) := by
  cases changed with
  | true =>
    refine ⟨Nat.le_succ _, ?_, honest.of_reconciler_eq rfl⟩
    intro n e he
    rw [if_pos rfl, getElem?_touch, getElem?_setObject] at he
    split at he
    · obtain ⟨_, -, rfl⟩ := Option.map_eq_some_iff.mp he
      exact .inr ⟨Nat.lt_succ_self _, Nat.le_refl _⟩
    · exact .inl he
  | false =>
    -- an honest reconciler that reports no change has made none
    have hsame : object = entry.object :=
      Classical.byContradiction fun h => absurd (hchanged h) (by simp)
    refine ⟨Nat.le_refl _, ?_, honest.of_reconciler_eq rfl⟩
    intro n e he
    rw [if_neg (by simp), getElem?_setObject] at he
    split at he
    · rename_i h
      subst h
      rw [hentry, hsame] at he
      rw [hentry]
      exact .inl he
    · exact .inl he

theorem follows_reconcileAll {r : Reconciler T ρ} (hr : r.Honest) (honest : s.Honest)
    (names : List String) :
    (reconcileAll r s names).1 = .returned () ∧ Follows s (reconcileAll r s names).2 := by
  induction names generalizing r s with
  | nil =>
    refine ⟨rfl, Nat.le_refl _, fun n e he => .inl he, ?_⟩
    rintro r' ⟨⟩
    exact hr
  | cons name names ih =>
    rw [reconcileAll]
    split
    · exact ih hr honest
    · rename_i entry hentry
      obtain ⟨memory, object, changed, hact, hchanged⟩ := hr r.memory entry.object
      rw [hact]
      have hstep := follows_reconciled honest hentry hchanged
      obtain ⟨hreturned, hrest⟩ := ih (r := { r with memory }) hr hstep.honest
      exact ⟨hreturned, hstep.trans hrest⟩

theorem follows_reconcile (honest : s.Honest) :
    s.reconcile.1 = .returned () ∧ Follows s s.reconcile.2 := by
  unfold reconcile
  split
  · exact ⟨rfl, .of_eq honest rfl rfl rfl⟩
  · rename_i r hr
    exact follows_reconcileAll (honest r hr) honest _

theorem follows_race (honest : s.Honest) (name : String) : Follows s (s.race name) := by
  unfold race
  split
  · exact .of_eq honest rfl rfl rfl
  · have hcount : Follows s { s with foreignWrites := s.foreignWrites - 1 } :=
      .of_eq honest rfl rfl rfl
    exact hcount.trans (follows_touch hcount.honest name)

theorem follows_list (honest : s.Honest) : Follows s s.list.2 := by
  obtain ⟨hreturned, hfollows⟩ := follows_reconcile honest
  unfold list
  split
  · rename_i hr
    rwa [hr] at hfollows
  · rename_i hr
    rwa [hr] at hfollows

variable [Resource T]

/-- A read hands out a snapshot that the store backs, even if a competing write hits the object right
after it. -/
theorem follows_get (honest : s.Honest) (name : String) :
    Follows s (s.get name).2 ∧
      (s.Bounded → ∀ v, (s.get name).1 = .returned (.ok v) → (s.get name).2.Backs name v) := by
  have hcount : Follows s { s with gets := s.gets + 1 } := .of_eq honest rfl rfl rfl
  obtain ⟨hreturned, hreconcile⟩ := follows_reconcile hcount.honest
  have hfollows := hcount.trans hreconcile
  unfold get
  split
  · rename_i hr
    rw [hr] at hreturned
    cases hreturned
  · rename_i s' hr
    rw [hr] at hfollows
    split
    · exact ⟨hfollows, fun _ v h => by cases h⟩
    · rename_i entry hentry
      have hrace := follows_race hfollows.honest name
      refine ⟨hfollows.trans hrace, ?_⟩
      rintro hbounded v ⟨⟩
      exact (backs_of_entry (hfollows.bounded hbounded) hentry).of_follows hrace

theorem follows_create (honest : s.Honest) (object : T) : Follows s (s.create object).2 := by
  rcases create_cases s object with ⟨_, heq⟩ | ⟨-, heq⟩
  · rw [heq]
    exact .of_eq honest rfl rfl rfl
  · rw [heq]
    have hcommit := follows_commit honest (Resource.name object) object
    exact hcommit.trans (.of_eq hcommit.honest rfl rfl rfl)

theorem follows_update (honest : s.Honest) (name : String) (desired : T) (expected : String) :
    Follows s (s.update name desired expected).2 := by
  have hcount : Follows s { s with updateAttempts := s.updateAttempts + 1 } :=
    .of_eq honest rfl rfl rfl
  rcases update_cases s name desired expected with ⟨_, heq⟩ | ⟨_, -, -, heq⟩
  · rw [heq]
    exact hcount
  · rw [heq]
    exact hcount.trans (follows_commit hcount.honest name desired)

theorem follows_delete (honest : s.Honest) (name : String) : Follows s (s.delete name).2 := by
  rcases delete_cases s name with ⟨_, heq⟩ | ⟨-, heq⟩
  · rw [heq]
    exact .of_eq honest rfl rfl rfl
  · rw [heq]
    refine ⟨Nat.le_refl _, ?_, honest.of_reconciler_eq rfl⟩
    intro n e he
    rw [getElem?_erase] at he
    split at he
    · cases he
    · exact .inl he

/-- Every call leads to a state that follows. -/
theorem follows_serve (honest : s.Honest) (call : StoreCall T) :
    Follows s (s.serve call).2 := by
  cases call with
  | get name => exact (follows_get honest name).1
  | list => exact follows_list honest
  | create object => exact follows_create honest object
  | update name desired expected => exact follows_update honest name desired expected
  | delete name => exact follows_delete honest name

end MemoryStore

end BuildTrial
