import BuildTrial.Proofs.Store.Versions

/-!
# The history of a store

What is committed in a store and what is handed out of it happens in the course of the operations on it:
a read lets the reconciler commit first, and a competing write may follow it; a creation or an update
hands out what it has committed. `MemoryStore.history` puts all of it in one order, as it can be told
from the replies.

`Unfolds` takes operations apart into steps with one happening at most, and every history unfolds
(`unfolds_history`). So whatever one such step preserves holds of all that can be done to a store.
-/

namespace BuildTrial

/-- Something that happens under one name of a store. -/
inductive Happening (T : Type) where
  /-- An object was stored or given a new version, or the name was freed. -/
  | committed (name : String)
  /-- Someone was given the object and its version. -/
  | handedOut (name : String) (snapshot : Versioned T)
deriving DecidableEq

/-- What can be done to a store. -/
inductive Operation (T ρ : Type) where
  | call (call : StoreCall T)
  | put (object : T)
  /-- From now on so many reads race a competing write. -/
  | foreignWrites (n : Nat)
  /-- From now on these names cannot be deleted. -/
  | refuseDeletes (names : List String)
  /-- From now on this reconciler acts before every read. -/
  | reconcileBy (r : Reconciler T ρ) (honest : r.Honest)

namespace MemoryStore

variable {T ρ : Type}

/-- The names among the given ones of which the reconciler reports a change, in order. -/
def reportedAll (r : Reconciler T ρ) : MemoryStore T ρ → List String → List String
  | _, [] => []
  | s, name :: names =>
    match s.objects[name]? with
    | none => reportedAll r s names
    | some entry =>
      let (memory, object, outcome) := r.act r.memory entry.object
      let s := s.setObject name object
      match outcome with
      | .panicked _ => []
      | .returned true => name :: reportedAll { r with memory } (s.touch name) names
      | .returned false => reportedAll { r with memory } s names

/-- The names of which the reconciler, if there is one, reports a change. -/
def reported (s : MemoryStore T ρ) : List String :=
  match s.reconciler with
  | none => []
  | some r => reportedAll r s s.objects.keys

end MemoryStore

namespace Operation

variable {T ρ : Type} [Resource T]

def apply : Operation T ρ → MemoryStore T ρ → MemoryStore T ρ
  | .call query, s => (s.serve query).2
  | .put object, s => s.put object
  | .foreignWrites n, s => { s with foreignWrites := n }
  | .refuseDeletes names, s => { s with refusedDeletes := names }
  | .reconcileBy r _, s => { s with reconciler := some r }

/-- A name whose new object is handed out, if the store took it. -/
def stored (name : String) : Except Error (Versioned T) → List (Happening T)
  | .ok v => [.committed name, .handedOut name v]
  | .error _ => []

/-- What happens in the course of an operation, in order. -/
def happenings : Operation T ρ → MemoryStore T ρ → List (Happening T)
  | .call (.get name), s =>
    ({ s with gets := s.gets + 1 } : MemoryStore T ρ).reported.map .committed ++
      match (s.get name).1 with
      | .returned (.ok v) =>
        .handedOut name v :: if s.foreignWrites = 0 then [] else [.committed name]
      | _ => []
  | .call .list, s =>
    s.reported.map .committed ++
      match s.list.1 with
      | .returned (.ok snapshots) =>
        (s.list.2.objects.keys.zip snapshots).map fun (name, v) => .handedOut name v
      | _ => []
  | .call (.create object), s => stored (Resource.name object) (s.create object).1
  | .call (.update name desired expected), s => stored name (s.update name desired expected).1
  | .call (.delete name), s =>
    match (s.delete name).1 with
    | .ok () => [.committed name]
    | .error _ => []
  | .put object, _ => [.committed (Resource.name object)]
  | .foreignWrites _, _ | .refuseDeletes _, _ | .reconcileBy _ _, _ => []

end Operation

namespace MemoryStore

variable {T ρ : Type} [Resource T]

/-- The store after some operations. -/
def afterAll (s : MemoryStore T ρ) (operations : List (Operation T ρ)) : MemoryStore T ρ :=
  operations.foldl (fun s operation => operation.apply s) s

/-- All that happens in the course of some operations, in order. -/
def history (s : MemoryStore T ρ) : List (Operation T ρ) → List (Happening T)
  | [] => []
  | operation :: operations =>
    operation.happenings s ++ history (operation.apply s) operations

end MemoryStore

/-! ## One happening at a time -/

namespace MemoryStore

variable {T ρ : Type}

/-- A change of a store with what happens in it, which is one thing at most. -/
inductive Step : MemoryStore T ρ → List (Happening T) → MemoryStore T ρ → Prop where
  /-- Nothing that can be seen in the objects. -/
  | silent {s s' : MemoryStore T ρ} (objects : ∀ n : String, s'.objects[n]? = s.objects[n]?)
      (counter : s'.counter = s.counter) : Step s [] s'
  /-- What is under the name afterwards, if anything, has a new version. -/
  | committed {s s' : MemoryStore T ρ} (name : String)
      (others : ∀ n : String, n ≠ name → s'.objects[n]? = s.objects[n]?)
      (fresh : ∀ e : Entry T, s'.objects[name]? = some e →
        s.counter < e.version ∧ e.version ≤ s'.counter)
      (counter : s.counter ≤ s'.counter) : Step s [.committed name] s'
  | handedOut {s : MemoryStore T ρ} (name : String) (entry : Entry T)
      (stored : s.objects[name]? = some entry) : Step s [.handedOut name entry.snapshot] s

/-- Any number of steps, with all that happens in them. -/
inductive Unfolds (s : MemoryStore T ρ) : List (Happening T) → MemoryStore T ρ → Prop where
  | nil : Unfolds s [] s
  | step {s' s'' : MemoryStore T ρ} {happened more : List (Happening T)}
      (before : Unfolds s happened s') (step : Step s' more s'') :
      Unfolds s (happened ++ more) s''

namespace Unfolds

variable {s s' s'' : MemoryStore T ρ} {happened more : List (Happening T)}

theorem single (h : Step s happened s') : Unfolds s happened s' := .step .nil h

theorem trans (h : Unfolds s happened s') (h' : Unfolds s' more s'') :
    Unfolds s (happened ++ more) s'' := by
  induction h' with
  | nil => rwa [List.append_nil]
  | step _ hstep ih =>
    rw [← List.append_assoc]
    exact ih.step hstep

theorem silent (objects : ∀ n : String, s'.objects[n]? = s.objects[n]?)
    (counter : s'.counter = s.counter) : Unfolds s [] s' := single (.silent objects counter)

end Unfolds

/-! ## The operations unfold -/

variable {s : MemoryStore T ρ}

theorem step_commit (s : MemoryStore T ρ) (name : String) (object : T) :
    Step s [.committed name] (s.commit name object) := by
  refine .committed name (fun n hn => ?_) (fun e he => ?_) (Nat.le_succ _)
  · rw [getElem?_commit, if_neg hn.symm]
  · rw [getElem?_commit, if_pos rfl] at he
    obtain rfl := Option.some.inj he
    exact ⟨Nat.lt_succ_self _, Nat.le_refl _⟩

theorem step_touch (s : MemoryStore T ρ) (name : String) :
    Step s [.committed name] (s.touch name) := by
  refine .committed name (fun n hn => ?_) (fun e he => ?_) (Nat.le_succ _)
  · rw [getElem?_touch, if_neg hn.symm]
  · rw [getElem?_touch, if_pos rfl] at he
    obtain ⟨_, -, rfl⟩ := Option.map_eq_some_iff.mp he
    exact ⟨Nat.lt_succ_self _, Nat.le_refl _⟩

theorem step_setObject_touch (s : MemoryStore T ρ) (name : String) (object : T) :
    Step s [.committed name] ((s.setObject name object).touch name) := by
  cases step_touch (s.setObject name object) name with
  | committed _ others fresh counter =>
    refine .committed name (fun n hn => ?_) fresh counter
    rw [others n hn, getElem?_setObject, if_neg hn.symm]

theorem getElem?_setObject_self {name : String} {entry : Entry T}
    (hentry : s.objects[name]? = some entry) (n : String) :
    (s.setObject name entry.object).objects[n]? = s.objects[n]? := by
  rw [getElem?_setObject]
  split
  · rename_i h
    rw [← h, hentry]
    rfl
  · rfl

theorem unfolds_reconcileAll {r : Reconciler T ρ} (hr : r.Honest) (s : MemoryStore T ρ)
    (names : List String) :
    Unfolds s ((reportedAll r s names).map .committed) (reconcileAll r s names).2 := by
  induction names generalizing r s with
  | nil => exact .silent (fun _ => rfl) rfl
  | cons name names ih =>
    rw [reportedAll, reconcileAll]
    cases hentry : s.objects[name]? with
    | none => exact ih hr s
    | some entry =>
      obtain ⟨memory, object, changed, hact, hchanged⟩ := hr r.memory entry.object
      simp only [hact]
      cases changed with
      | true =>
        have hrest := ih (r := { r with memory }) hr ((s.setObject name object).touch name)
        exact (Unfolds.single (step_setObject_touch s name object)).trans hrest
      | false =>
        -- an honest reconciler that reports nothing has put the same object there
        have hsame : object = entry.object :=
          Classical.byContradiction fun h => absurd (hchanged h) (by simp)
        subst hsame
        have hrest := ih (r := { r with memory }) hr (s.setObject name entry.object)
        exact (Unfolds.silent (getElem?_setObject_self hentry) rfl).trans hrest

theorem unfolds_reconcile (honest : s.Honest) :
    Unfolds s (s.reported.map .committed) s.reconcile.2 := by
  unfold reported reconcile
  cases hr : s.reconciler with
  | none => exact .nil
  | some r => exact unfolds_reconcileAll (honest r hr) s _

theorem unfolds_race (s : MemoryStore T ρ) (name : String) :
    Unfolds s (if s.foreignWrites = 0 then [] else [.committed name]) (s.race name) := by
  unfold race
  split
  · exact .nil
  · have hcount : Unfolds s [] { s with foreignWrites := s.foreignWrites - 1 } :=
      .silent (fun _ => rfl) rfl
    exact hcount.trans (.single (step_touch _ name))

theorem unfolds_handedOut {pairs : List (String × Entry T)}
    (h : ∀ name entry, (name, entry) ∈ pairs → s.objects[name]? = some entry) :
    Unfolds s (pairs.map fun pair => .handedOut pair.1 pair.2.snapshot) s := by
  induction pairs with
  | nil => exact .nil
  | cons pair pairs ih =>
    have hfirst : Step s [.handedOut pair.1 pair.2.snapshot] s :=
      .handedOut pair.1 pair.2 (h _ _ List.mem_cons_self)
    have hrest := ih fun name entry hmem => h name entry (List.mem_cons_of_mem _ hmem)
    exact (Unfolds.single hfirst).trans hrest

theorem unfolds_stored (name : String) (object : T) {s' : MemoryStore T ρ}
    (objects : ∀ n : String, s'.objects[n]? = (s.commit name object).objects[n]?)
    (counter : s'.counter = s.counter + 1) :
    Unfolds s (Operation.stored name (.ok ⟨object, toString (s.counter + 1)⟩)) s' := by
  have hentry : (s.commit name object).objects[name]? = some ⟨object, s.counter + 1⟩ := by
    rw [getElem?_commit, if_pos rfl]
  have hcommitted : Unfolds s [.committed name] (s.commit name object) :=
    .single (step_commit s name object)
  exact (hcommitted.step (.handedOut name _ hentry)).trans (.silent objects counter)

/-- The values of a map, in the order of its keys. -/
theorem values_eq_map_toList {V : Type} (map : StringMap V) :
    map.values = map.toList.map Prod.snd := by
  -- both are defined on the tree behind the map
  obtain ⟨⟨⟨tree⟩⟩⟩ := map
  show tree.inner.values = (Std.DTreeMap.Internal.Impl.Const.toList tree.inner).map Prod.snd
  rw [Std.DTreeMap.Internal.Impl.Const.toList_eq_toListModel_map,
    Std.DTreeMap.Internal.Impl.values_eq_map_snd]
  simp

theorem zip_keys_values {V α : Type} (map : StringMap V) (f : V → α) :
    map.keys.zip (map.values.map f) = map.toList.map fun pair => (pair.1, f pair.2) := by
  rw [values_eq_map_toList, ← Std.ExtTreeMap.map_fst_toList_eq_keys, List.map_map, List.zip_map']
  rfl

theorem foreignWrites_reconcile (s : MemoryStore T ρ) :
    s.reconcile.2.foreignWrites = s.foreignWrites :=
  congrArg (fun read => read.2.foreignWrites) (reconcile_eq rfl rfl rfl : s.reconcile = _)

end MemoryStore

namespace Operation

variable {T ρ : Type} [Resource T] {s : MemoryStore T ρ}

open MemoryStore

theorem unfolds_get (honest : s.Honest) (name : String) :
    Unfolds s (happenings (.call (.get name)) s) (s.get name).2 := by
  -- the read is counted before the reconciler acts
  have hcount : Unfolds s [] { s with gets := s.gets + 1 } := .silent (fun _ => rfl) rfl
  have honest' : ({ s with gets := s.gets + 1 } : MemoryStore T ρ).Honest := honest
  have hreconcile := hcount.trans (unfolds_reconcile honest')
  have hreturned := (follows_reconcile honest').1
  have hforeign := foreignWrites_reconcile { s with gets := s.gets + 1 }
  rw [List.nil_append] at hreconcile
  rw [happenings, MemoryStore.get]
  generalize ({ s with gets := s.gets + 1 } : MemoryStore T ρ).reconcile = read at *
  obtain ⟨outcome, s'⟩ := read
  obtain rfl : outcome = .returned () := hreturned
  dsimp only at *
  cases hentry : s'.objects[name]? with
  | none =>
    dsimp only
    rw [List.append_nil]
    exact hreconcile
  | some entry =>
    dsimp only
    have hhanded := Unfolds.single (Step.handedOut name entry hentry)
    have hrace := unfolds_race s' name
    rw [hforeign] at hrace
    exact hreconcile.trans (hhanded.trans hrace)

theorem unfolds_list (honest : s.Honest) :
    Unfolds s (happenings (.call .list) s) s.list.2 := by
  have hreconcile := unfolds_reconcile honest
  have hreturned := (follows_reconcile honest).1
  rw [happenings, MemoryStore.list]
  generalize s.reconcile = read at *
  obtain ⟨outcome, s'⟩ := read
  obtain rfl : outcome = .returned () := hreturned
  dsimp only at *
  refine hreconcile.trans ?_
  rw [zip_keys_values, List.map_map]
  exact unfolds_handedOut fun name entry hmem =>
    Std.ExtTreeMap.mem_toList_iff_getElem?_eq_some.mp hmem

theorem unfolds_create (object : T) :
    Unfolds s (happenings (.call (.create object)) s) (s.create object).2 := by
  rw [happenings]
  rcases create_cases s object with ⟨_, heq⟩ | ⟨-, heq⟩
  · rw [heq]
    exact .nil
  · rw [heq]
    exact unfolds_stored _ object (fun _ => rfl) rfl

theorem unfolds_update (name : String) (desired : T) (expected : String) :
    Unfolds s (happenings (.call (.update name desired expected)) s)
      (s.update name desired expected).2 := by
  rw [happenings]
  rcases update_cases s name desired expected with ⟨_, heq⟩ | ⟨_, -, -, heq⟩
  · rw [heq]
    exact .silent (fun _ => rfl) rfl
  · rw [heq]
    exact unfolds_stored name desired (fun _ => rfl) rfl

theorem unfolds_delete (name : String) :
    Unfolds s (happenings (.call (.delete name)) s) (s.delete name).2 := by
  rw [happenings]
  rcases delete_cases s name with ⟨_, heq⟩ | ⟨-, heq⟩
  · rw [heq]
    exact .nil
  · rw [heq]
    refine .single (.committed name (fun n hn => ?_) (fun e he => ?_) (Nat.le_refl _))
    · rw [getElem?_erase, if_neg hn.symm]
    · rw [getElem?_erase, if_pos rfl] at he
      cases he

/-- Whatever is done to a store with an honest reconciler unfolds into what happens. -/
theorem unfolds (honest : s.Honest) (operation : Operation T ρ) :
    Unfolds s (operation.happenings s) (operation.apply s) ∧ (operation.apply s).Honest := by
  cases operation with
  | call query =>
    refine ⟨?_, (follows_serve honest query).honest⟩
    cases query with
    | get name => exact unfolds_get honest name
    | list => exact unfolds_list honest
    | create object => exact unfolds_create object
    | update name desired expected => exact unfolds_update name desired expected
    | delete name => exact unfolds_delete name
  | put object =>
    exact ⟨.single (step_commit s _ object), (follows_commit honest _ object).honest⟩
  | foreignWrites n => exact ⟨.silent (fun _ => rfl) rfl, honest⟩
  | refuseDeletes names => exact ⟨.silent (fun _ => rfl) rfl, honest⟩
  | reconcileBy r hr =>
    refine ⟨.silent (fun _ => rfl) rfl, ?_⟩
    rintro _ ⟨⟩
    exact hr

end Operation

namespace MemoryStore

variable {T ρ : Type}

theorem unfolds_history [Resource T] {s : MemoryStore T ρ} (honest : s.Honest)
    (operations : List (Operation T ρ)) :
    Unfolds s (s.history operations) (s.afterAll operations) := by
  induction operations generalizing s with
  | nil => exact .nil
  | cons operation operations ih =>
    obtain ⟨hfirst, hhonest⟩ := operation.unfolds honest
    exact hfirst.trans (ih hhonest)

end MemoryStore

end BuildTrial
