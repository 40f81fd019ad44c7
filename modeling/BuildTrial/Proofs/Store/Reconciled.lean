import Std.Data.String.ToNat
import BuildTrial.Proofs.Store.Contention
import BuildTrial.Proofs.Store.Integrity

/-!
# What a reconciler alone makes of the objects

A reconciler is shown objects, not their versions. Two stores with the same objects are therefore the
same to it (`Alike`), and competing writes, which do nothing but move versions on, leave no trace in what
it does later. `reconciledTimes` is a store whose reconciler has acted so often and to which nothing else
has happened.

An update that conflicts changes no more than a read: `Raced` is what any number of such attempts have
made of a store, and `Raced.next` is one attempt more.
-/

namespace BuildTrial

def Reconciler.NeverPanics {T ρ : Type} (r : Reconciler T ρ) : Prop :=
  ∀ memory object, ∃ memory' object' changed,
    r.act memory object = (memory', object', .returned changed)

namespace MemoryStore

variable {T ρ : Type}

/-- The reconciler of the store, if it has one, never panics. -/
def NeverPanics (s : MemoryStore T ρ) : Prop := ∀ r, s.reconciler = some r → r.NeverPanics

/-- To the reconciler, which is the same in both, the stores are the same. -/
structure Alike (s s' : MemoryStore T ρ) : Prop where
  objects : ∀ n, s'.objectAt n = s.objectAt n
  reconciler : s'.reconciler = s.reconciler

/-- The store after its reconciler has acted so often. -/
def reconciledTimes : Nat → MemoryStore T ρ → MemoryStore T ρ
  | 0, s => s
  | k + 1, s => (reconciledTimes k s).reconcile.2

theorem objectAt_touch (s : MemoryStore T ρ) (name n : String) :
    (s.touch name).objectAt n = s.objectAt n := by
  rw [objectAt, objectAt, getElem?_touch]
  split
  · rw [Option.map_map]
    rfl
  · rfl

theorem objectAt_setObject (s : MemoryStore T ρ) (name n : String) (object : T) :
    (s.setObject name object).objectAt n =
      if name = n then (s.objectAt n).map fun _ => object else s.objectAt n := by
  rw [objectAt, objectAt, getElem?_setObject]
  split
  · rw [Option.map_map, Option.map_map]
    rfl
  · rfl

namespace Alike

variable {s s' : MemoryStore T ρ}

/-- Stores with the same objects have the same names. -/
theorem keys_eq (h : Alike s s') : s'.objects.keys = s.objects.keys := by
  have hmap : s'.objects.map (fun _ entry => entry.object) =
      s.objects.map fun _ entry => entry.object := by
    apply Std.ExtTreeMap.ext_getElem?
    intro n
    simp only [Std.ExtTreeMap.getElem?_map]
    exact h.objects n
  have hkeys := congrArg Std.ExtTreeMap.keys hmap
  rwa [Std.ExtTreeMap.keys_map, Std.ExtTreeMap.keys_map] at hkeys

theorem setObject (h : ∀ n, s'.objectAt n = s.objectAt n) (name : String) (object : T) (n : String) :
    (s'.setObject name object).objectAt n = (s.setObject name object).objectAt n := by
  rw [objectAt_setObject, objectAt_setObject, h]

theorem reconcileAll {r : Reconciler T ρ} {names : List String}
    (h : ∀ n, s'.objectAt n = s.objectAt n) :
    Alike (MemoryStore.reconcileAll r s names).2 (MemoryStore.reconcileAll r s' names).2 := by
  induction names generalizing r s s' with
  | nil => exact ⟨h, rfl⟩
  | cons name names ih =>
    have hname := h name
    rw [objectAt, objectAt] at hname
    rw [MemoryStore.reconcileAll, MemoryStore.reconcileAll]
    cases hentry : s.objects[name]? with
    | none =>
      rw [hentry] at hname
      rw [Option.map_eq_none_iff.mp hname]
      exact ih h
    | some entry =>
      rw [hentry] at hname
      obtain ⟨entry', hentry', hobject⟩ := Option.map_eq_some_iff.mp hname
      rw [hentry']
      -- the reconciler is shown the objects only, so it does the same in both stores
      rcases hact : r.act r.memory entry.object with ⟨memory, object, (_ | _) | payload⟩
      · simp only [hobject, hact]
        exact ih (setObject h name object)
      · have htouched : ∀ n, ((s'.setObject name object).touch name).objectAt n =
            ((s.setObject name object).touch name).objectAt n := by
          intro n
          rw [objectAt_touch, objectAt_touch]
          exact setObject h name object n
        simp only [hobject, hact]
        exact ih htouched
      · simp only [hobject, hact]
        exact ⟨setObject h name object, rfl⟩

theorem reconcile (h : Alike s s') : Alike s.reconcile.2 s'.reconcile.2 := by
  unfold MemoryStore.reconcile
  rw [h.reconciler, h.keys_eq]
  cases hr : s.reconciler with
  | none => exact ⟨h.objects, h.reconciler⟩
  | some r => exact reconcileAll h.objects

end Alike

/-- A reconciler that never panics gets through, and stays. -/
theorem reconcileAll_of_neverPanics {r : Reconciler T ρ} (hr : r.NeverPanics) (s : MemoryStore T ρ)
    (names : List String) :
    (reconcileAll r s names).1 = .returned () ∧ (reconcileAll r s names).2.NeverPanics := by
  induction names generalizing r s with
  | nil =>
    refine ⟨rfl, ?_⟩
    intro r' hr'
    obtain rfl := Option.some.inj hr'
    exact hr
  | cons name names ih =>
    rw [reconcileAll]
    split
    · exact ih hr s
    · rename_i entry hentry
      obtain ⟨memory, object, changed, hact⟩ := hr r.memory entry.object
      simp only [hact]
      have hr' : ({ r with memory } : Reconciler T ρ).NeverPanics := hr
      exact ih hr' _

theorem reconcile_of_neverPanics {s : MemoryStore T ρ} (h : s.NeverPanics) :
    s.reconcile.1 = .returned () ∧ s.reconcile.2.NeverPanics := by
  unfold reconcile
  split
  · exact ⟨rfl, h⟩
  · rename_i r hr
    exact reconcileAll_of_neverPanics (h r hr) s _

/-! ## Attempts that meet a conflict -/

variable [Resource T]

/-- What `k` attempts to update an object have made of a store if all of them met a conflict. -/
structure Raced (name : String) (k : Nat) (s s' : MemoryStore T ρ) : Prop where
  reachable : s'.Reachable
  steady : s'.NeverPanics
  stored : name ∈ s'.objects
  gets : s'.gets = s.gets + k
  updateAttempts : s'.updateAttempts = s.updateAttempts + k
  foreignWrites : s'.foreignWrites = s.foreignWrites - k
  alike : (s.reconciledTimes k).Alike s'

theorem Reachable.serve {s : MemoryStore T ρ} (h : s.Reachable) (call : StoreCall T) :
    (s.serve call).2.Reachable := by
  obtain ⟨dealings, rfl⟩ := h
  refine ⟨dealings ++ [.call call], ?_⟩
  rw [after, after, List.foldl_append]
  rfl

theorem Reachable.bounded_atRead {s : MemoryStore T ρ} (h : s.Reachable) : s.atRead.Bounded := by
  obtain ⟨dealings, rfl⟩ := h
  exact (numbered_after dealings).reconcile.bounded

/-- A read of a name that is there, if the reconciler does not panic. -/
theorem get_stored {s : MemoryStore T ρ} {name : String} (hsteady : s.NeverPanics)
    (hstored : name ∈ s.objects) :
    ∃ entry, s.atRead.objects[name]? = some entry ∧
      s.get name = (.returned (.ok entry.snapshot), s.atRead.race name) := by
  have hreturned := (reconcile_of_neverPanics hsteady).1
  rcases get_cases s name with ⟨_, hpanicked, -⟩ | ⟨-, hmissing, -⟩ | ⟨entry, -, hentry, hget⟩
  · rw [hreturned] at hpanicked
    cases hpanicked
  · exact absurd ((mem_reconcile_iff s name).mpr hstored) hmissing
  · exact ⟨entry, hentry, hget⟩

/-- After a read that races a competing write, an update against what was read is a conflict. -/
theorem update_raced {s : MemoryStore T ρ} {name : String} {entry : Entry T} (desired : T)
    (hbounded : s.Bounded) (hentry : s.objects[name]? = some entry) (hpending : s.foreignWrites ≠ 0) :
    ∃ message, (s.race name).update name desired (toString entry.version) =
      (.error (.conflict (Resource.kindName T) name message),
        { s.race name with updateAttempts := s.updateAttempts + 1 }) := by
  have hraced : (s.race name).objects[name]? = some { entry with version := s.counter + 1 } := by
    rw [race, if_neg hpending, getElem?_touch, if_pos rfl]
    exact congrArg _ hentry
  -- the competing write took a version that was not there when the object was read
  have hstale : toString (s.counter + 1) ≠ toString entry.version := by
    intro heq
    have hversion := Nat.repr_inj.mp heq
    have hle := hbounded name entry hentry
    omega
  obtain ⟨message, hupdate⟩ := update_stale desired hraced hstale
  refine ⟨message, hupdate.trans ?_⟩
  rw [race, if_neg hpending]
  rfl

theorem Raced.zero {s : MemoryStore T ρ} {name : String} (hreachable : s.Reachable)
    (hsteady : s.NeverPanics) (hstored : name ∈ s.objects) : Raced name 0 s s :=
  ⟨hreachable, hsteady, hstored, rfl, rfl, rfl, ⟨fun _ => rfl, rfl⟩⟩

namespace Raced

variable {name : String} {k : Nat} {s s' : MemoryStore T ρ}

/-- One attempt more, while a competing write is pending. -/
theorem next (h : Raced name k s s') (hpending : k < s.foreignWrites) (f : T → T) :
    ∃ current message s₁ s₂, s'.serve (.get name) = (.returned (.ok current), s₁) ∧
      s₁.serve (.update name (f current.object) current.version) =
        (.returned (.error (.conflict (Resource.kindName T) name message)), s₂) ∧
      Raced name (k + 1) s s₂ := by
  have hforeign := h.foreignWrites
  obtain ⟨entry, hentry, hget⟩ := get_stored h.steady h.stored
  have hleft : s'.atRead.foreignWrites ≠ 0 := by
    show s'.foreignWrites ≠ 0
    omega
  -- the foreign write comes between the read and the update, which is refused for it
  obtain ⟨message, hupdate⟩ :=
    update_raced (f entry.object) h.reachable.bounded_atRead hentry hleft
  have hreachable := (h.reachable.serve (.get name)).serve
    (.update name (f entry.object) (toString entry.version))
  have hserved : s'.serve (.get name) = (.returned (.ok entry.snapshot), s'.atRead.race name) := hget
  rw [hserved, serve_update, hupdate] at hreachable
  have hrefused : (s'.atRead.race name).serve
      (.update name (f entry.snapshot.object) entry.snapshot.version) = _ :=
    congrArg (fun answer => (Outcome.returned answer.1, answer.2)) hupdate
  have hrace : s'.atRead.race name =
      { s'.atRead with foreignWrites := s'.foreignWrites - 1 }.touch name := if_neg hleft
  refine ⟨entry.snapshot, message, _, _, hserved, hrefused, ?_⟩
  rw [hrace] at hreachable ⊢
  refine ⟨hreachable, (reconcile_of_neverPanics h.steady).2, ?_, ?_, ?_, ?_, ?_,
    h.alike.reconcile.reconciler⟩
  · exact (mem_touch_iff _ _ _).mpr ((mem_reconcile_iff s' name).mpr h.stored)
  · exact congrArg (· + 1) h.gets
  · exact congrArg (· + 1) h.updateAttempts
  · show s'.foreignWrites - 1 = s.foreignWrites - (k + 1)
    omega
  · intro n
    exact (objectAt_touch _ _ _).trans (h.alike.reconcile.objects n)

/-- The last attempt, with no competing write pending. -/
theorem commit (h : Raced name k s s') (hquiet : s.foreignWrites = k) (f : T → T) :
    ∃ current v s₁ s₂, s'.serve (.get name) = (.returned (.ok current), s₁) ∧
      s₁.serve (.update name (f current.object) current.version) = (.returned (.ok v), s₂) ∧
      s₂.gets = s.gets + (k + 1) ∧ s₂.updateAttempts = s.updateAttempts + (k + 1) ∧
      (s.reconciledTimes (k + 1)).objectAt name = some current.object ∧
      v.object = f current.object ∧ s₂.peek? name = some v ∧ s₂.foreignWrites = 0 := by
  have hforeign : s'.foreignWrites = 0 := by
    have := h.foreignWrites
    omega
  obtain ⟨entry, hentry, hget⟩ := get_stored h.steady h.stored
  have hrace : s'.atRead.race name = s'.atRead := if_pos hforeign
  rw [hrace] at hget
  have hupdate := update_current (f entry.object) hentry
  have haccepted : s'.atRead.serve (.update name (f entry.snapshot.object) entry.snapshot.version) = _ :=
    congrArg (fun answer => (Outcome.returned answer.1, answer.2)) hupdate
  have hobject : s'.atRead.objectAt name = some entry.object := by
    rw [objectAt, hentry]
    rfl
  refine ⟨entry.snapshot, _, _, _, hget, haccepted, congrArg (· + 1) h.gets,
    congrArg (· + 1) h.updateAttempts, ?_, rfl, ?_, hforeign⟩
  · exact (h.alike.reconcile.objects name).symm.trans hobject
  · rw [peek?, getElem?_commit, if_pos rfl]
    rfl

end Raced

end MemoryStore

end BuildTrial
