import Mathlib.Data.List.Nodup
import BuildTrial.Proofs.Store.Versions

/-!
# No version is used twice

`Proofs/Store/Versions` trusts the reconciler to report what it changes. Here nothing is asked of it: it
may say what it likes, and it may panic in the middle of its work. What the store itself promises is left
then, which is about versions and names only.

`MemoryStore.commits` lists the commits of a whole run in their order, each with the version that is
stored right after it. `Numbered` goes from one operation to the next: the commits so far have the
versions from one to the counter, and every stored version is among them. So no version is ever used
again, not even under another name or after a deletion, and no two stored versions are the same.
-/

namespace BuildTrial

/-- What can be done to a store. The reconciler may be any. -/
inductive Dealing (T ρ : Type) where
  | call (call : StoreCall T)
  | put (object : T)
  /-- From now on so many reads race a competing write. -/
  | foreignWrites (n : Nat)
  /-- From now on this name cannot be deleted either. -/
  | refuseDelete (name : String)
  /-- From now on this reconciler acts before every read. -/
  | reconcileBy (r : Reconciler T ρ)

/-- A new version under a name. -/
structure Commit where
  name : String
  version : Nat
deriving DecidableEq

namespace MemoryStore

variable {T ρ : Type}

/-- What has just been committed under a name. -/
def latest (s : MemoryStore T ρ) (name : String) : List Commit :=
  (s.objects[name]?.map fun entry => ⟨name, entry.version⟩).toList

/-- The commits of a reconciler that acts on the objects with the given names, in order. -/
def reconcileCommits (r : Reconciler T ρ) : MemoryStore T ρ → List String → List Commit
  | _, [] => []
  | s, name :: names =>
    match s.objects[name]? with
    | none => reconcileCommits r s names
    | some entry =>
      let (memory, object, outcome) := r.act r.memory entry.object
      let s := s.setObject name object
      match outcome with
      | .panicked _ => []
      | .returned true =>
        (s.touch name).latest name ++ reconcileCommits { r with memory } (s.touch name) names
      | .returned false => reconcileCommits { r with memory } s names

/-- The commits before a read. -/
def readCommits (s : MemoryStore T ρ) : List Commit :=
  match s.reconciler with
  | none => []
  | some r => reconcileCommits r s s.objects.keys

end MemoryStore

namespace Dealing

variable {T ρ : Type} [Resource T]

def apply : Dealing T ρ → MemoryStore T ρ → MemoryStore T ρ
  | .call query, s => (s.serve query).2
  | .put object, s => s.put object
  | .foreignWrites n, s => { s with foreignWrites := n }
  | .refuseDelete name, s => { s with refusedDeletes := s.refusedDeletes ++ [name] }
  | .reconcileBy r, s => { s with reconciler := some r }

/-- What is committed, in order. A competing write follows a read that finds something. -/
def commits : Dealing T ρ → MemoryStore T ρ → List Commit
  | .call (.get name), s =>
    ({ s with gets := s.gets + 1 } : MemoryStore T ρ).readCommits ++
      match (s.get name).1 with
      | .returned (.ok _) => if s.foreignWrites = 0 then [] else (s.get name).2.latest name
      | _ => []
  | .call .list, s => s.readCommits
  | .call (.create object), s =>
    match (s.create object).1 with
    | .ok _ => (s.create object).2.latest (Resource.name object)
    | .error _ => []
  | .call (.update name desired expected), s =>
    match (s.update name desired expected).1 with
    | .ok _ => (s.update name desired expected).2.latest name
    | .error _ => []
  | .call (.delete _), _ => []
  | .put object, s => (s.put object).latest (Resource.name object)
  | .foreignWrites _, _ | .refuseDelete _, _ | .reconcileBy _, _ => []

end Dealing

namespace MemoryStore

variable {T ρ : Type} [Resource T]

def after (s : MemoryStore T ρ) (dealings : List (Dealing T ρ)) : MemoryStore T ρ :=
  dealings.foldl (fun s dealing => dealing.apply s) s

/-- All commits of a run, in order. -/
def commits (s : MemoryStore T ρ) : List (Dealing T ρ) → List Commit
  | [] => []
  | dealing :: dealings => dealing.commits s ++ commits (dealing.apply s) dealings

/-- A store as it can be, whatever has been done to it since it was new. -/
def Reachable (s : MemoryStore T ρ) : Prop :=
  ∃ dealings : List (Dealing T ρ), s = MemoryStore.after {} dealings

end MemoryStore

/-! ## The versions -/

namespace MemoryStore

variable {T ρ : Type}

/-- The commits so far have the versions from one to the counter, and what is stored is among them. -/
structure Numbered (past : List Commit) (s : MemoryStore T ρ) : Prop where
  versions : past.map Commit.version = List.range' 1 s.counter
  stored : ∀ (n : String) (e : Entry T), s.objects[n]? = some e → ⟨n, e.version⟩ ∈ past

namespace Numbered

variable {past : List Commit} {s s' : MemoryStore T ρ}

theorem empty : Numbered [] ({} : MemoryStore T ρ) := by
  refine ⟨rfl, fun n e he => ?_⟩
  change (∅ : StringMap (Entry T))[n]? = some e at he
  simp at he

theorem increasing (h : Numbered past s) : past.Pairwise fun c c' => c.version < c'.version := by
  have hversions : (past.map Commit.version).Pairwise (· < ·) := by
    rw [h.versions]
    exact List.pairwise_lt_range'
  exact List.pairwise_map.mp hversions

theorem version_le (h : Numbered past s) {c : Commit} (hc : c ∈ past) : c.version ≤ s.counter := by
  have hmem : c.version ∈ past.map Commit.version := List.mem_map_of_mem hc
  rw [h.versions, List.mem_range'_1] at hmem
  omega

theorem bounded (h : Numbered past s) : s.Bounded := by
  intro n e he
  exact h.version_le (h.stored n e he)

/-- Two names never have the same version. -/
theorem distinct (h : Numbered past s) {n m : String} {e e' : Entry T}
    (he : s.objects[n]? = some e) (he' : s.objects[m]? = some e') (hne : n ≠ m) :
    e.version ≠ e'.version := by
  intro hversion
  have hnodup : (past.map Commit.version).Nodup := by
    rw [h.versions]
    exact List.nodup_range'
  have hsame := List.inj_on_of_nodup_map hnodup (h.stored n e he) (h.stored m e' he') hversion
  exact hne (Commit.mk.inj hsame).1

theorem of_versions (h : Numbered past s) (hcounter : s'.counter = s.counter)
    (hentries : ∀ (n : String) (e' : Entry T), s'.objects[n]? = some e' →
      ∃ e : Entry T, s.objects[n]? = some e ∧ e.version = e'.version) : Numbered past s' := by
  constructor
  · rw [hcounter]
    exact h.versions
  · intro n e' he'
    obtain ⟨e, he, hversion⟩ := hentries n e' he'
    rw [← hversion]
    exact h.stored n e he

theorem of_objects (h : Numbered past s) (hcounter : s'.counter = s.counter)
    (hobjects : s'.objects = s.objects) : Numbered past s' := by
  refine h.of_versions hcounter fun n e he => ?_
  rw [hobjects] at he
  exact ⟨e, he, rfl⟩

/-- One commit: the name has the next version, and the others are as they were. -/
theorem advance (h : Numbered past s) {name : String} (hcounter : s'.counter = s.counter + 1)
    (hnew : ∃ e : Entry T, s'.objects[name]? = some e ∧ e.version = s.counter + 1)
    (hothers : ∀ n : String, n ≠ name → s'.objects[n]? = s.objects[n]?) :
    Numbered (past ++ s'.latest name) s' := by
  obtain ⟨entry, hentry, hversion⟩ := hnew
  have hlatest : s'.latest name = [⟨name, s.counter + 1⟩] := by
    simp [latest, hentry, hversion]
  rw [hlatest]
  constructor
  · rw [List.map_append, h.versions, hcounter, List.range'_concat]
    simp [Nat.add_comm]
  · intro n e he
    rw [List.mem_append]
    by_cases hname : n = name
    · subst hname
      obtain rfl := Option.some.inj (hentry.symm.trans he)
      exact .inr (by simp [hversion])
    · rw [hothers n hname] at he
      exact .inl (h.stored n e he)

theorem commit (h : Numbered past s) (name : String) (object : T) :
    Numbered (past ++ (s.commit name object).latest name) (s.commit name object) := by
  refine h.advance rfl ⟨⟨object, s.counter + 1⟩, ?_, rfl⟩ fun n hn => ?_
  · simp
  · simp [hn.symm]

theorem touch (h : Numbered past s) {name : String} (hname : name ∈ s.objects) :
    Numbered (past ++ (s.touch name).latest name) (s.touch name) := by
  rw [mem_iff_isSome] at hname
  obtain ⟨entry, hentry⟩ := Option.isSome_iff_exists.mp hname
  refine h.advance rfl ⟨{ entry with version := s.counter + 1 }, ?_, rfl⟩ fun n hn => ?_
  · simp [hentry]
  · simp [hn.symm]

theorem setObject (h : Numbered past s) (name : String) (object : T) :
    Numbered past (s.setObject name object) := by
  refine h.of_versions rfl fun n e he => ?_
  rw [getElem?_setObject] at he
  split at he
  · obtain ⟨entry, hentry, rfl⟩ := Option.map_eq_some_iff.mp he
    exact ⟨entry, hentry, rfl⟩
  · exact ⟨e, he, rfl⟩

/-- Whatever the reconciler does to the objects, and even if it panics half-way. -/
theorem reconcileAll (h : Numbered past s) (r : Reconciler T ρ) (names : List String) :
    Numbered (past ++ reconcileCommits r s names) (MemoryStore.reconcileAll r s names).2 := by
  induction names generalizing r past s with
  | nil =>
    rw [reconcileCommits, List.append_nil]
    exact h.of_objects rfl rfl
  | cons name names ih =>
    rw [reconcileCommits, MemoryStore.reconcileAll]
    cases hentry : s.objects[name]? with
    | none => exact ih h r
    | some entry =>
      rcases hact : r.act r.memory entry.object with ⟨memory, object, (_ | _) | payload⟩
      · simp only [hact]
        exact ih (h.setObject name object) { r with memory }
      · -- the name is still there, so the change that is reported is a commit
        have hmem : name ∈ (s.setObject name object).objects := by
          rw [mem_setObject_iff, mem_iff_isSome, hentry]
          rfl
        have hrest := ih ((h.setObject name object).touch hmem) { r with memory }
        rw [List.append_assoc] at hrest
        simp only [hact]
        exact hrest
      · simp only [hact, List.append_nil]
        exact (h.setObject name object).of_objects rfl rfl

theorem reconcile (h : Numbered past s) :
    Numbered (past ++ s.readCommits) s.reconcile.2 := by
  unfold readCommits MemoryStore.reconcile
  cases s.reconciler with
  | none =>
    rw [List.append_nil]
    exact h
  | some r => exact h.reconcileAll r _

theorem list (h : Numbered past s) : Numbered (past ++ s.readCommits) s.list.2 := by
  have hreconcile := h.reconcile
  unfold MemoryStore.list
  split
  · rename_i hr
    rwa [hr] at hreconcile
  · rename_i hr
    rwa [hr] at hreconcile

variable [Resource T]

theorem get (h : Numbered past s) (name : String) :
    Numbered (past ++ (Dealing.call (.get name)).commits s) (s.get name).2 := by
  -- the read is counted before the reconciler acts
  have hcount : Numbered past { s with gets := s.gets + 1 } := h.of_objects rfl rfl
  have hread := hcount.reconcile
  rw [reconcile_counted] at hread
  rw [Dealing.commits]
  rcases get_cases s name with ⟨_, -, heq⟩ | ⟨-, -, heq⟩ | ⟨entry, -, hentry, heq⟩
  · simpa [heq] using hread
  · simpa [heq] using hread
  · rw [heq, ← List.append_assoc]
    dsimp only
    by_cases hquiet : s.foreignWrites = 0
    · have hrace : s.atRead.race name = s.atRead := if_pos hquiet
      simpa [hquiet, hrace] using hread
    · have hrace : s.atRead.race name =
          { s.atRead with foreignWrites := s.foreignWrites - 1 }.touch name := if_neg hquiet
      have hspent : Numbered _ { s.atRead with foreignWrites := s.foreignWrites - 1 } :=
        hread.of_objects rfl rfl
      have hmem : name ∈ s.atRead.objects := by
        rw [mem_iff_isSome, hentry]
        rfl
      rw [if_neg hquiet, hrace]
      exact hspent.touch hmem

theorem create (h : Numbered past s) (object : T) :
    Numbered (past ++ (Dealing.call (.create object)).commits s) (s.create object).2 := by
  rw [Dealing.commits]
  rcases create_cases s object with ⟨_, heq⟩ | ⟨-, heq⟩
  · simpa [heq] using h
  · rw [heq]
    exact (h.commit (Resource.name object) object).of_objects rfl rfl

theorem update (h : Numbered past s) (name : String) (desired : T) (expected : String) :
    Numbered (past ++ (Dealing.call (.update name desired expected)).commits s)
      (s.update name desired expected).2 := by
  have hcount : Numbered past { s with updateAttempts := s.updateAttempts + 1 } :=
    h.of_objects rfl rfl
  rw [Dealing.commits]
  rcases update_cases s name desired expected with ⟨_, heq⟩ | ⟨_, -, -, heq⟩
  · simpa [heq] using hcount
  · rw [heq]
    exact hcount.commit name desired

theorem delete (h : Numbered past s) (name : String) : Numbered past (s.delete name).2 := by
  rcases delete_cases s name with ⟨_, heq⟩ | ⟨-, heq⟩
  · rw [heq]
    exact h
  · rw [heq]
    refine h.of_versions rfl fun n e he => ?_
    rw [getElem?_erase] at he
    split at he
    · cases he
    · exact ⟨e, he, rfl⟩

theorem apply (h : Numbered past s) (dealing : Dealing T ρ) :
    Numbered (past ++ dealing.commits s) (dealing.apply s) := by
  cases dealing with
  | call query =>
    cases query with
    | get name => exact h.get name
    | list => exact h.list
    | create object => exact h.create object
    | update name desired expected => exact h.update name desired expected
    | delete name =>
      rw [Dealing.commits, List.append_nil]
      exact h.delete name
  | put object => exact h.commit (Resource.name object) object
  | foreignWrites | refuseDelete | reconcileBy =>
    rw [Dealing.commits, List.append_nil]
    exact h.of_objects rfl rfl

theorem after (h : Numbered past s) (dealings : List (Dealing T ρ)) :
    Numbered (past ++ s.commits dealings) (s.after dealings) := by
  induction dealings generalizing past s with
  | nil =>
    rw [MemoryStore.commits, List.append_nil]
    exact h
  | cons dealing dealings ih =>
    rw [MemoryStore.commits, ← List.append_assoc]
    exact ih (h.apply dealing)

end Numbered

/-- A store starts with no commits. -/
theorem numbered_after [Resource T] (dealings : List (Dealing T ρ)) :
    Numbered (commits {} dealings) (after {} dealings : MemoryStore T ρ) :=
  Numbered.empty.after dealings

end MemoryStore

end BuildTrial
