import BuildTrial.Proofs.Store.Commits

/-!
# What a store accounts for

A call that fails leaves no trace but in the counts of calls (`Atomic`). Only a read is more than that,
because it lets the reconciler act before it finds out, but it uses up no competing write.

The names that were created and deleted account for those that are there (`Balanced`), unless someone
puts objects past the calls. `after_sound` says all of this of a store with any past.
-/

namespace BuildTrial

/-! ## Calls that fail -/

namespace MemoryStore

variable {T ρ : Type} [Resource T]

/-- What a failed call leaves behind: an update and a read are counted, and a read lets the reconciler
act, but no competing write follows it. -/
structure Atomic (s : MemoryStore T ρ) : Prop where
  update : ∀ name desired expected e,
    (s.serve (.update name desired expected)).1 = .returned (.error e) →
      (s.serve (.update name desired expected)).2 = { s with updateAttempts := s.updateAttempts + 1 }
  create : ∀ object e, (s.serve (.create object)).1 = .returned (.error e) →
    (s.serve (.create object)).2 = s
  delete : ∀ name e, (s.serve (.delete name)).1 = .returned (.error e) →
    (s.serve (.delete name)).2 = s
  get : ∀ name e, (s.serve (.get name)).1 = .returned (.error e) →
    (s.serve (.get name)).2 = { s with
      gets := s.gets + 1
      objects := s.reconcile.2.objects
      counter := s.reconcile.2.counter
      reconciler := s.reconcile.2.reconciler }

theorem atomic (s : MemoryStore T ρ) : s.Atomic := by
  constructor
  · intro name desired expected e h
    rw [serve_update] at h ⊢
    rcases update_cases s name desired expected with ⟨_, heq⟩ | ⟨_, -, -, heq⟩
    · rw [heq]
    · rw [heq] at h
      cases h
  · intro object e h
    rw [serve_create] at h ⊢
    rcases create_cases s object with ⟨_, heq⟩ | ⟨-, heq⟩
    · rw [heq]
    · rw [heq] at h
      cases h
  · intro name e h
    rw [serve_delete] at h ⊢
    rcases delete_cases s name with ⟨_, heq⟩ | ⟨-, heq⟩
    · rw [heq]
    · rw [heq] at h
      cases h
  · intro name e h
    change (s.get name).1 = _ at h
    show (s.get name).2 = s.atRead
    rcases get_cases s name with ⟨_, -, heq⟩ | ⟨-, -, heq⟩ | ⟨_, -, -, heq⟩
    · rw [heq]
    · rw [heq]
    · rw [heq] at h
      cases h

end MemoryStore

/-! ## The names -/

namespace MemoryStore

variable {T ρ : Type}

/-- The names created and deleted account for those that are there. -/
def Balanced (s : MemoryStore T ρ) : Prop :=
  ∀ n : String, s.created.count n = s.deleted.count n + if n ∈ s.objects then 1 else 0

namespace Balanced

variable {s s' : MemoryStore T ρ}

theorem empty : ({} : MemoryStore T ρ).Balanced := by
  intro n
  show 0 = 0 + if n ∈ (∅ : StringMap (Entry T)) then 1 else 0
  simp

theorem of_eq (h : s.Balanced) (hnames : ∀ n : String, n ∈ s'.objects ↔ n ∈ s.objects)
    (hcreated : s'.created = s.created) (hdeleted : s'.deleted = s.deleted) : s'.Balanced := by
  intro n
  simp only [hcreated, hdeleted, hnames]
  exact h n

theorem list (h : s.Balanced) : s.list.2.Balanced := by
  have hledger : s.list.2.created = s.created ∧ s.list.2.deleted = s.deleted := by
    have hreconcile : s.reconcile = _ := reconcile_eq rfl rfl rfl
    rw [MemoryStore.list, hreconcile]
    cases s.reconcile.1 <;> exact ⟨rfl, rfl⟩
  exact h.of_eq (mem_list_iff s) hledger.1 hledger.2

variable [Resource T]

theorem get (h : s.Balanced) (name : String) : (s.get name).2.Balanced := by
  have hnames := mem_get_iff s name
  rcases get_cases s name with ⟨_, -, heq⟩ | ⟨-, -, heq⟩ | ⟨_, -, -, heq⟩
  · rw [heq] at hnames ⊢
    exact h.of_eq hnames rfl rfl
  · rw [heq] at hnames ⊢
    exact h.of_eq hnames rfl rfl
  · rw [heq] at hnames ⊢
    refine h.of_eq hnames ?_ ?_
    · unfold race
      split <;> rfl
    · unfold race
      split <;> rfl

theorem create (h : s.Balanced) (object : T) : (s.create object).2.Balanced := by
  rcases create_cases s object with ⟨_, heq⟩ | ⟨hfree, heq⟩
  · rw [heq]
    exact h
  · rw [heq]
    intro n
    have hn := h n
    have hdeleted : (s.commit (Resource.name object) object).deleted = s.deleted := rfl
    simp only [hdeleted, mem_commit_iff, List.count_append, List.count_singleton, beq_iff_eq]
    by_cases hname : Resource.name object = n
    · subst hname
      rw [if_neg hfree] at hn
      simp [hn]
    · simpa [hname] using hn

theorem update (h : s.Balanced) (name : String) (desired : T) (expected : String) :
    (s.update name desired expected).2.Balanced := by
  have hnames : ∀ n : String, n ∈ (s.update name desired expected).2.objects ↔ n ∈ s.objects := by
    intro n
    exact mem_update_iff s name n expected desired
  rcases update_cases s name desired expected with ⟨_, heq⟩ | ⟨_, -, -, heq⟩
  · rw [heq] at hnames ⊢
    exact h.of_eq hnames rfl rfl
  · rw [heq] at hnames ⊢
    exact h.of_eq hnames rfl rfl

theorem delete (h : s.Balanced) (name : String) : (s.delete name).2.Balanced := by
  rcases delete_cases s name with ⟨_, heq⟩ | ⟨htaken, heq⟩
  · rw [heq]
    exact h
  · rw [heq]
    intro n
    have hn := h n
    simp only [mem_erase_iff, List.count_append, List.count_singleton, beq_iff_eq]
    by_cases hname : name = n
    · subst hname
      rw [if_pos htaken] at hn
      simp [hn]
    · simpa [hname] using hn

/-- Only a put stores a name that is not accounted for. -/
theorem apply (h : s.Balanced) {dealing : Dealing T ρ} (hput : ∀ object, dealing ≠ .put object) :
    (dealing.apply s).Balanced := by
  cases dealing with
  | call query =>
    cases query with
    | get name => exact h.get name
    | list => exact h.list
    | create object => exact h.create object
    | update name desired expected => exact h.update name desired expected
    | delete name => exact h.delete name
  | put object => exact absurd rfl (hput object)
  | foreignWrites | refuseDelete | reconcileBy => exact h

theorem after (h : s.Balanced) {dealings : List (Dealing T ρ)}
    (hput : ∀ object, .put object ∉ dealings) : (s.after dealings).Balanced := by
  induction dealings generalizing s with
  | nil => exact h
  | cons dealing dealings ih =>
    refine ih (h.apply fun object heq => hput object ?_) fun object hmem => hput object ?_
    · rw [heq]
      exact List.mem_cons_self
    · exact List.mem_cons_of_mem _ hmem

end Balanced

variable [Resource T]

/-- Whatever is done to a new store, and whatever its reconciler does, no two objects have the same
version, and the commits have ever greater ones, every number up to the counter once. A call that fails
leaves the objects alone. The names that were created and not deleted are those that are there, unless
an object was put. -/
theorem after_sound (dealings : List (Dealing T ρ)) :
    let s : MemoryStore T ρ := after {} dealings
    (∀ (n m : String) (e e' : Entry T), s.objects[n]? = some e → s.objects[m]? = some e' → n ≠ m →
      e.version ≠ e'.version) ∧
    s.Bounded ∧
    (∀ (n : String) (e : Entry T), s.objects[n]? = some e →
      ⟨n, e.version⟩ ∈ commits ({} : MemoryStore T ρ) dealings) ∧
    (commits ({} : MemoryStore T ρ) dealings).Pairwise (fun c c' => c.version < c'.version) ∧
    (commits ({} : MemoryStore T ρ) dealings).map Commit.version = List.range' 1 s.counter ∧
    s.Atomic ∧
    ((∀ object, .put object ∉ dealings) → s.Balanced) := by
  intro s
  have hnumbered := numbered_after dealings (ρ := ρ)
  refine ⟨fun n m e e' => hnumbered.distinct, hnumbered.bounded, hnumbered.stored,
    hnumbered.increasing, hnumbered.versions, s.atomic, fun hput => ?_⟩
  exact Balanced.empty.after hput

/-- A pool is created, deleted and created again, and a competing write follows a read. -/
theorem after_sound_recreated :
    ∃ (pool : Pool) (dealings : List (Dealing Pool Unit)), dealings = [.call (.create pool),
        .call (.delete pool.name), .call (.create pool), .foreignWrites 1, .call (.get pool.name)] ∧
      commits {} dealings = [⟨pool.name, 1⟩, ⟨pool.name, 2⟩, ⟨pool.name, 3⟩] ∧
      (after {} dealings).counter = 3 ∧ (after {} dealings).Bounded ∧
      (∀ object, .put object ∉ dealings) ∧
      (after {} dealings).created.count pool.name = (after {} dealings).deleted.count pool.name + 1 := by
  let pool : Pool := { name := "worker" }
  let dealings : List (Dealing Pool Unit) := [.call (.create pool), .call (.delete pool.name),
    .call (.create pool), .foreignWrites 1, .call (.get pool.name)]
  have hput : ∀ object, .put object ∉ dealings := by simp [dealings]
  obtain ⟨-, hbounded, -, -, -, -, hnames⟩ := after_sound dealings
  have hthere : pool.name ∈ (after {} dealings).objects := by decide +kernel
  refine ⟨pool, dealings, rfl, by decide +kernel, by decide +kernel, hbounded, hput, ?_⟩
  have hcount := hnames hput pool.name
  rwa [if_pos hthere] at hcount

end MemoryStore

end BuildTrial
