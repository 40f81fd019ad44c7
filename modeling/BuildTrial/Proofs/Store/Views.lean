import BuildTrial.Proofs.Store.Entries
import BuildTrial.Proofs.Store.History
import Mathlib.Logic.Function.Basic

/-!
# A store seen through a view

A reconciler may rewrite whatever it likes, so of an object only that part can be followed through a
run that the reconciler leaves alone. A `view` is such a part, the labels of a node for example. While
nobody but the caller writes it, what is viewed under a name changes with the calls that succeed, and
not with reads, with competitors that only move versions on, or with calls that fail.
-/

namespace BuildTrial

/-- The reconciler never changes what is viewed of an object, whatever it has come to remember. -/
def Reconciler.Keeps {T ρ β : Type} (view : T → β) (r : Reconciler T ρ) : Prop :=
  ∃ Reached : ρ → Prop, Reached r.memory ∧ ∀ memory object, Reached memory →
    Reached (r.act memory object).1 ∧ view (r.act memory object).2.1 = view object

namespace MemoryStore

variable {T ρ β : Type}

/-- The reconciler of the store, if it has one, leaves what is viewed alone. -/
def Keeps (view : T → β) (s : MemoryStore T ρ) : Prop :=
  ∀ r, s.reconciler = some r → r.Keeps view

/-- What is viewed under a name. -/
def viewed (view : T → β) (s : MemoryStore T ρ) (name : String) : Option β :=
  s.objects[name]?.map fun entry => view entry.object

/-- Nothing that is viewed changes from one state to the other. -/
structure Retains (view : T → β) (s s' : MemoryStore T ρ) : Prop where
  viewed : s'.viewed view = s.viewed view
  keeps : s'.Keeps view

variable {view : T → β} {s s' s'' : MemoryStore T ρ}

namespace Retains

theorem of_eq (hkeeps : s.Keeps view) (hobjects : s'.objects = s.objects)
    (hreconciler : s'.reconciler = s.reconciler) : Retains view s s' := by
  constructor
  · funext n
    rw [MemoryStore.viewed, hobjects]
    rfl
  · intro r hr
    rw [hreconciler] at hr
    exact hkeeps r hr

theorem refl (hkeeps : s.Keeps view) : Retains view s s := of_eq hkeeps rfl rfl

theorem trans (h : Retains view s s') (h' : Retains view s' s'') : Retains view s s'' :=
  ⟨h'.viewed.trans h.viewed, h'.keeps⟩

end Retains

theorem viewed_commit (name : String) (object : T) :
    (s.commit name object).viewed view =
      Function.update (s.viewed view) name (some (view object)) := by
  funext n
  by_cases h : name = n
  · subst h
    simp [viewed]
  · simp [viewed, h, Function.update_of_ne (Ne.symm h)]

theorem viewed_erase (name : String) :
    ({ s with objects := s.objects.erase name } : MemoryStore T ρ).viewed view =
      Function.update (s.viewed view) name none := by
  funext n
  by_cases h : name = n
  · subst h
    simp [viewed]
  · simp [viewed, getElem?_erase, h, Function.update_of_ne (Ne.symm h)]

theorem retains_touch (hkeeps : s.Keeps view) (name : String) : Retains view s (s.touch name) := by
  refine ⟨funext fun n => ?_, hkeeps⟩
  by_cases h : name = n
  · cases hentry : s.objects[n]? <;> simp [viewed, h, hentry]
  · simp [viewed, h]

/-- Replacing an object by one that looks the same. -/
theorem retains_setObject (hkeeps : s.Keeps view) {name : String} {entry : Entry T} {object : T}
    (hentry : s.objects[name]? = some entry) (hview : view object = view entry.object) :
    Retains view s (s.setObject name object) := by
  refine ⟨funext fun n => ?_, hkeeps⟩
  by_cases h : name = n
  · subst h
    simp [viewed, hentry, hview]
  · simp [viewed, h]

theorem retains_reconcileAll {r : Reconciler T ρ} (hr : r.Keeps view) (hkeeps : s.Keeps view)
    (names : List String) : Retains view s (reconcileAll r s names).2 := by
  induction names generalizing r s with
  | nil =>
    refine ⟨rfl, ?_⟩
    intro r' hr'
    rwa [← Option.some.inj hr']
  | cons name names ih =>
    rw [reconcileAll]
    split
    · exact ih hr hkeeps
    · rename_i entry hentry
      obtain ⟨Reached, hmemory, hact⟩ := hr
      obtain ⟨hmemory', hview⟩ := hact r.memory entry.object hmemory
      generalize r.act r.memory entry.object = effect at hmemory' hview ⊢
      obtain ⟨memory, object, changed | payload⟩ := effect
      · have hset := retains_setObject hkeeps hentry hview
        have hr' : Reconciler.Keeps view { r with memory } := ⟨Reached, hmemory', hact⟩
        cases changed with
        | true =>
          have htouch := retains_touch hset.keeps name
          exact (hset.trans htouch).trans (ih hr' htouch.keeps)
        | false => exact hset.trans (ih hr' hset.keeps)
      · -- a reconciler that panics is gone
        exact ⟨(retains_setObject hkeeps hentry hview).viewed, fun _ h => by cases h⟩

theorem retains_reconcile (hkeeps : s.Keeps view) : Retains view s s.reconcile.2 := by
  unfold reconcile
  split
  · exact .refl hkeeps
  · rename_i r hr
    exact retains_reconcileAll (hkeeps r hr) hkeeps _

theorem retains_race (hkeeps : s.Keeps view) (name : String) : Retains view s (s.race name) := by
  unfold race
  split
  · exact .refl hkeeps
  · have hcount : Retains view s { s with foreignWrites := s.foreignWrites - 1 } :=
      .of_eq hkeeps rfl rfl
    exact hcount.trans (retains_touch hcount.keeps name)

/-- A listing changes nothing, and all that it brings is viewed somewhere. -/
theorem retains_list (hkeeps : s.Keeps view) :
    Retains view s s.list.2 ∧ ∀ listed, s.list.1 = .returned (.ok listed) →
      ∀ v ∈ listed, ∃ n, s.viewed view n = some (view v.object) := by
  have hreconcile := retains_reconcile hkeeps
  unfold list
  split
  · rename_i hr
    rw [hr] at hreconcile
    exact ⟨hreconcile, fun _ h => by cases h⟩
  · rename_i s₁ hr
    rw [hr] at hreconcile
    refine ⟨hreconcile, ?_⟩
    rintro _ ⟨⟩ v hv
    obtain ⟨entry, hentry, rfl⟩ := List.mem_map.mp hv
    rw [values_eq_map_toList] at hentry
    obtain ⟨⟨n, entry⟩, hmem, rfl⟩ := List.mem_map.mp hentry
    refine ⟨n, ?_⟩
    rw [← hreconcile.viewed, viewed, Std.ExtTreeMap.mem_toList_iff_getElem?_eq_some.mp hmem]
    rfl

variable [Resource T]

/-- A read changes nothing, and what it brings is what is viewed under the name. -/
theorem retains_get (hkeeps : s.Keeps view) (name : String) :
    Retains view s (s.get name).2 ∧ ∀ v, (s.get name).1 = .returned (.ok v) →
      s.viewed view name = some (view v.object) := by
  have hcount : Retains view s { s with gets := s.gets + 1 } := .of_eq hkeeps rfl rfl
  have hreconcile := hcount.trans (retains_reconcile hcount.keeps)
  unfold get
  split
  · rename_i hr
    rw [hr] at hreconcile
    exact ⟨hreconcile, fun _ h => by cases h⟩
  · rename_i s₁ hr
    rw [hr] at hreconcile
    split
    · exact ⟨hreconcile, fun _ h => by cases h⟩
    · rename_i entry hentry
      refine ⟨hreconcile.trans (retains_race hreconcile.keeps name), ?_⟩
      rintro _ ⟨⟩
      rw [← hreconcile.viewed, viewed, hentry]
      rfl

end MemoryStore

end BuildTrial
