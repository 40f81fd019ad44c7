import BuildTrial.Store.Memory

/-!
# What the operations of a store in memory do to its entries

One lemma for each operation, about the entry under an arbitrary name. Everything that is proved
about stores below goes through these, so that the maps themselves are looked into here only.

Which names are stored is simpler than what is stored under them: whatever a reconciler does, and
however often competitors write, only a creation adds a name and only a deletion takes one away.
-/

namespace BuildTrial

namespace MemoryStore

variable {T ρ : Type}

@[simp] theorem getElem?_commit (s : MemoryStore T ρ) (name n : String) (object : T) :
    (s.commit name object).objects[n]? =
      if name = n then some ⟨object, s.counter + 1⟩ else s.objects[n]? := by
  show (s.objects.insert name ⟨object, s.counter + 1⟩)[n]? = _
  rw [Std.ExtTreeMap.getElem?_insert]
  simp only [Std.LawfulEqCmp.compare_eq_iff_eq]

@[simp] theorem getElem?_touch (s : MemoryStore T ρ) (name n : String) :
    (s.touch name).objects[n]? =
      if name = n then s.objects[n]?.map fun entry => { entry with version := s.counter + 1 }
      else s.objects[n]? := by
  show (s.objects.modify name _)[n]? = _
  rw [Std.ExtTreeMap.getElem?_modify]
  simp only [Std.LawfulEqCmp.compare_eq_iff_eq]
  split
  · rename_i h
    rw [h]
  · rfl

@[simp] theorem getElem?_setObject (s : MemoryStore T ρ) (name n : String) (object : T) :
    (s.setObject name object).objects[n]? =
      if name = n then s.objects[n]?.map fun entry => { entry with object }
      else s.objects[n]? := by
  show (s.objects.modify name _)[n]? = _
  rw [Std.ExtTreeMap.getElem?_modify]
  simp only [Std.LawfulEqCmp.compare_eq_iff_eq]
  split
  · rename_i h
    rw [h]
  · rfl

theorem getElem?_erase (s : MemoryStore T ρ) (name n : String) :
    (s.objects.erase name)[n]? = if name = n then none else s.objects[n]? := by
  rw [Std.ExtTreeMap.getElem?_erase]
  simp only [Std.LawfulEqCmp.compare_eq_iff_eq]

/-! ## The names -/

theorem mem_iff_isSome (s : MemoryStore T ρ) (n : String) :
    n ∈ s.objects ↔ s.objects[n]?.isSome := Std.ExtTreeMap.mem_iff_isSome_getElem?

theorem mem_touch_iff (s : MemoryStore T ρ) (name n : String) :
    n ∈ (s.touch name).objects ↔ n ∈ s.objects := Std.ExtTreeMap.mem_modify

theorem mem_setObject_iff (s : MemoryStore T ρ) (name n : String) (object : T) :
    n ∈ (s.setObject name object).objects ↔ n ∈ s.objects := Std.ExtTreeMap.mem_modify

theorem mem_commit_iff (s : MemoryStore T ρ) (name n : String) (object : T) :
    n ∈ (s.commit name object).objects ↔ name = n ∨ n ∈ s.objects := by
  show n ∈ s.objects.insert name _ ↔ _
  rw [Std.ExtTreeMap.mem_insert, Std.LawfulEqCmp.compare_eq_iff_eq]

theorem mem_erase_iff (s : MemoryStore T ρ) (name n : String) :
    n ∈ s.objects.erase name ↔ name ≠ n ∧ n ∈ s.objects := by
  rw [Std.ExtTreeMap.mem_erase, Ne, Std.LawfulEqCmp.compare_eq_iff_eq]

/-- A reconciler changes objects, not which of them there are, even if it panics half-way. -/
theorem mem_reconcileAll_iff (r : Reconciler T ρ) (s : MemoryStore T ρ) (names : List String)
    (n : String) : n ∈ (reconcileAll r s names).2.objects ↔ n ∈ s.objects := by
  induction names generalizing r s with
  | nil => rfl
  | cons name names ih =>
    rw [reconcileAll]
    split
    · exact ih r s
    · rename_i entry _
      rcases r.act r.memory entry.object with ⟨memory, object, changed | payload⟩
      · rw [ih]
        split
        · rw [mem_touch_iff, mem_setObject_iff]
        · rw [mem_setObject_iff]
      · exact mem_setObject_iff s name n object

theorem mem_reconcile_iff (s : MemoryStore T ρ) (n : String) :
    n ∈ s.reconcile.2.objects ↔ n ∈ s.objects := by
  unfold reconcile
  split
  · rfl
  · exact mem_reconcileAll_iff _ _ _ _

theorem mem_race_iff (s : MemoryStore T ρ) (name n : String) :
    n ∈ (s.race name).objects ↔ n ∈ s.objects := by
  unfold race
  split
  · rfl
  · exact mem_touch_iff _ _ _

theorem mem_list_iff (s : MemoryStore T ρ) (n : String) :
    n ∈ s.list.2.objects ↔ n ∈ s.objects := by
  have hreconcile := mem_reconcile_iff s n
  unfold list
  split
  · rename_i hr
    rwa [hr] at hreconcile
  · rename_i hr
    rwa [hr] at hreconcile

/-! ## What the reconciler leaves alone -/

/-- A reconciler does the same, whatever the counts of the store are, and leaves them alone. -/
theorem reconcileAll_eq (r : Reconciler T ρ) {s s' : MemoryStore T ρ} (names : List String)
    (hobjects : s'.objects = s.objects) (hcounter : s'.counter = s.counter) :
    reconcileAll r s' names = ((reconcileAll r s names).1, { s' with
      objects := (reconcileAll r s names).2.objects
      counter := (reconcileAll r s names).2.counter
      reconciler := (reconcileAll r s names).2.reconciler }) := by
  induction names generalizing r s s' with
  | nil => simp only [reconcileAll, ← hobjects, ← hcounter]
  | cons name names ih =>
    have hset : ∀ object, (s'.setObject name object).objects = (s.setObject name object).objects := by
      intro object
      simp only [setObject, hobjects]
    have htouch : ∀ object, ((s'.setObject name object).touch name).objects =
        ((s.setObject name object).touch name).objects := by
      intro object
      simp only [touch, setObject, hobjects, hcounter]
    have hcount : ∀ object, ((s'.setObject name object).touch name).counter =
        ((s.setObject name object).touch name).counter := fun _ => congrArg (· + 1) hcounter
    simp only [reconcileAll, hobjects]
    cases s.objects[name]? with
    | none => exact ih r hobjects hcounter
    | some entry =>
      rcases hact : r.act r.memory entry.object with ⟨memory, object, (_ | _) | payload⟩
      · simp only [hact]
        exact ih _ (hset object) hcounter
      · simp only [hact]
        exact ih _ (htouch object) (hcount object)
      · simp only [hact, setObject, hobjects, hcounter]

theorem reconcile_eq {s s' : MemoryStore T ρ} (hobjects : s'.objects = s.objects)
    (hcounter : s'.counter = s.counter) (hreconciler : s'.reconciler = s.reconciler) :
    s'.reconcile = (s.reconcile.1, { s' with
      objects := s.reconcile.2.objects
      counter := s.reconcile.2.counter
      reconciler := s.reconcile.2.reconciler }) := by
  unfold reconcile
  rw [hreconciler, hobjects]
  cases hr : s.reconciler with
  | none =>
    obtain ⟨⟩ := s'
    simp_all
  | some r => exact reconcileAll_eq r s.objects.keys hobjects hcounter

/-- The store as a read finds it: the reconciler has acted, and the read is counted. -/
def atRead (s : MemoryStore T ρ) : MemoryStore T ρ :=
  { s with
    gets := s.gets + 1
    objects := s.reconcile.2.objects
    counter := s.reconcile.2.counter
    reconciler := s.reconcile.2.reconciler }

theorem reconcile_counted (s : MemoryStore T ρ) :
    ({ s with gets := s.gets + 1 } : MemoryStore T ρ).reconcile = (s.reconcile.1, s.atRead) :=
  reconcile_eq rfl rfl rfl

/-! ## The calls -/

variable [Resource T]

theorem mem_get_iff (s : MemoryStore T ρ) (name n : String) :
    n ∈ (s.get name).2.objects ↔ n ∈ s.objects := by
  have hreconcile := mem_reconcile_iff { s with gets := s.gets + 1 } n
  unfold get
  split
  · rename_i hr
    rwa [hr] at hreconcile
  · rename_i hr
    rw [hr] at hreconcile
    split
    · exact hreconcile
    · exact (mem_race_iff _ _ _).trans hreconcile

theorem serve_create (s : MemoryStore T ρ) (object : T) :
    s.serve (.create object) = (.returned (s.create object).1, (s.create object).2) := rfl

theorem serve_update (s : MemoryStore T ρ) (name : String) (desired : T) (expected : String) :
    s.serve (.update name desired expected) = (.returned (s.update name desired expected).1,
      (s.update name desired expected).2) := rfl

theorem serve_delete (s : MemoryStore T ρ) (name : String) :
    s.serve (.delete name) = (.returned (s.delete name).1, (s.delete name).2) := rfl

/-- A creation succeeds only under a name that is free, and takes it. -/
theorem create_cases (s : MemoryStore T ρ) (object : T) :
    (∃ e, s.create object = (.error e, s)) ∨
      Resource.name object ∉ s.objects ∧
        s.create object = (.ok ⟨object, toString (s.counter + 1)⟩,
          { s.commit (Resource.name object) object with
            created := s.created ++ [Resource.name object] }) := by
  unfold create
  dsimp only
  by_cases h : Resource.name object ∈ s.objects
  · rw [if_pos (Std.ExtTreeMap.mem_iff_contains.mp h)]
    exact .inl ⟨_, rfl⟩
  · rw [if_neg (mt Std.ExtTreeMap.mem_iff_contains.mpr h)]
    exact .inr ⟨h, rfl⟩

/-- An update succeeds only against the version that is stored, and replaces the object. -/
theorem update_cases (s : MemoryStore T ρ) (name : String) (desired : T) (expected : String) :
    (∃ e, s.update name desired expected =
        (.error e, { s with updateAttempts := s.updateAttempts + 1 })) ∨
      ∃ entry, s.objects[name]? = some entry ∧ toString entry.version = expected ∧
        s.update name desired expected = (.ok ⟨desired, toString (s.counter + 1)⟩,
          { s with updateAttempts := s.updateAttempts + 1 }.commit name desired) := by
  unfold update
  dsimp only
  split
  · exact .inl ⟨_, rfl⟩
  · rename_i entry hentry
    by_cases hversion : toString entry.version = expected
    · rw [if_pos hversion]
      exact .inr ⟨entry, hentry, hversion, rfl⟩
    · rw [if_neg hversion]
      exact .inl ⟨_, rfl⟩

/-- An update keeps the names. -/
theorem mem_update_iff (s : MemoryStore T ρ) (name n expected : String) (desired : T) :
    n ∈ (s.update name desired expected).2.objects ↔ n ∈ s.objects := by
  rcases update_cases s name desired expected with ⟨_, heq⟩ | ⟨entry, hentry, -, heq⟩
  · rw [heq]
  · rw [heq, mem_commit_iff]
    constructor
    · rintro (rfl | h)
      · rw [mem_iff_isSome, hentry]
        rfl
      · exact h
    · exact .inr

/-- A deletion succeeds only on a name that is taken, and frees it. -/
theorem delete_cases (s : MemoryStore T ρ) (name : String) :
    (∃ e, s.delete name = (.error e, s)) ∨
      name ∈ s.objects ∧
        s.delete name = (.ok (), { s with
          objects := s.objects.erase name
          deleted := s.deleted ++ [name] }) := by
  unfold delete
  by_cases hrefused : name ∈ s.refusedDeletes
  · rw [if_pos hrefused]
    exact .inl ⟨_, rfl⟩
  rw [if_neg hrefused]
  by_cases h : name ∈ s.objects
  · rw [if_pos (Std.ExtTreeMap.mem_iff_contains.mp h)]
    exact .inr ⟨h, rfl⟩
  · rw [if_neg (mt Std.ExtTreeMap.mem_iff_contains.mpr h)]
    exact .inl ⟨_, rfl⟩

/-- A read goes as far as the reconciler lets it, and a competing write follows only a snapshot. -/
theorem get_cases (s : MemoryStore T ρ) (name : String) :
    (∃ payload, s.reconcile.1 = .panicked payload ∧ s.get name = (.panicked payload, s.atRead)) ∨
      (s.reconcile.1 = .returned () ∧ name ∉ s.atRead.objects ∧
        s.get name = (.returned (.error (.notFound (Resource.kindName T) name)), s.atRead)) ∨
      ∃ entry, s.reconcile.1 = .returned () ∧ s.atRead.objects[name]? = some entry ∧
        s.get name = (.returned (.ok entry.snapshot), s.atRead.race name) := by
  rw [get, reconcile_counted]
  cases hr : s.reconcile.1 with
  | panicked payload => exact .inl ⟨payload, rfl, rfl⟩
  | returned =>
    dsimp only
    cases hentry : s.atRead.objects[name]? with
    | none =>
      refine .inr (.inl ⟨rfl, ?_, rfl⟩)
      rw [mem_iff_isSome, hentry]
      simp
    | some entry => exact .inr (.inr ⟨entry, rfl, rfl, rfl⟩)

/-- A read that nobody interferes with. -/
theorem get_quiet {s : MemoryStore T ρ} {name : String} {entry : Entry T}
    (hreconciler : s.reconciler = none) (hforeign : s.foreignWrites = 0)
    (hentry : s.objects[name]? = some entry) :
    s.get name = (.returned (.ok entry.snapshot), { s with gets := s.gets + 1 }) := by
  have hquiet : ({ s with gets := s.gets + 1 } : MemoryStore T ρ).reconcile =
      (.returned (), { s with gets := s.gets + 1 }) := by
    rw [reconcile, hreconciler]
  rw [get, hquiet]
  dsimp only
  rw [hentry]
  dsimp only
  rw [race, if_pos hforeign]

/-- An update against the version that is stored is accepted. -/
theorem update_current {s : MemoryStore T ρ} {name : String} {entry : Entry T} (desired : T)
    (hentry : s.objects[name]? = some entry) :
    s.update name desired (toString entry.version) = (.ok ⟨desired, toString (s.counter + 1)⟩,
      { s with updateAttempts := s.updateAttempts + 1 }.commit name desired) := by
  unfold update
  dsimp only
  rw [hentry]
  exact if_pos rfl

/-- An update against any other version than the stored one is a conflict. -/
theorem update_stale {s : MemoryStore T ρ} {name expected : String} {entry : Entry T} (desired : T)
    (hentry : s.objects[name]? = some entry) (hstale : toString entry.version ≠ expected) :
    ∃ message, s.update name desired expected =
      (.error (.conflict (Resource.kindName T) name message),
        { s with updateAttempts := s.updateAttempts + 1 }) := by
  unfold update
  dsimp only
  rw [hentry]
  exact ⟨_, if_neg hstale⟩

end MemoryStore

end BuildTrial
