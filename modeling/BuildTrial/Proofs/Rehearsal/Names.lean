import BuildTrial.Proofs.Scenario.Acquisitions
import BuildTrial.Proofs.Store.Entries
import BuildTrial.Rehearsal.Cluster
import Mathlib.Data.List.Basic
import Mathlib.Data.Set.Basic

/-!
# The names that a cluster stores

The names in the stores of a cluster change in two ways only: a successful creation adds a name that
was free, and a successful deletion removes one that was taken (`NamesChange`). This holds for every
cluster: for reconcilers that lie or panic, for any faults ahead of the stores, for refused deletions
and competing writers. The lemmas about paths say what it means for a stretch of a run.
-/

namespace BuildTrial

namespace Event

/-- What a successful deletion deleted. -/
def deleted? : PlaneEvent → Option (Kind × String)
  | ⟨.call (.store kind (.delete name)), .returned (.ok _)⟩ => some (kind, name)
  | _ => none

theorem deleting?_of_deleted? {e : PlaneEvent} {target : Kind × String}
    (h : e.deleted? = some target) : e.deleting? = some target := by
  unfold deleted? at h
  split at h
  · exact h
  · cases h

theorem created?_eq_none {kind : Kind} {call : StoreCall kind.Model}
    (h : ∀ object, call ≠ .create object) (reply : Attempted call.Answer) :
    created? ⟨.call (.store kind call), reply⟩ = none := by
  cases call with
  | create object => exact absurd rfl (h object)
  | _ => rfl

theorem deleted?_eq_none {kind : Kind} {call : StoreCall kind.Model}
    (h : ∀ name, call ≠ .delete name) (reply : Attempted call.Answer) :
    deleted? ⟨.call (.store kind call), reply⟩ = none := by
  cases call with
  | delete name => exact absurd rfl (h name)
  | _ => rfl

end Event

namespace Rehearsal.Cluster

open MemoryStore

variable {ρ : Kind → Type} {ε : Type}

/-- The names of the stored objects of a kind. -/
def names (c : Cluster ρ ε) (kind : Kind) : Set String := {n | n ∈ (c.store kind).memory.objects}

/-- How a call on one store goes together with the names before and after it. -/
structure NamesChange (c c' : Cluster ρ ε) (e : PlaneEvent) : Prop where
  iff : ∀ kind n, n ∈ c'.names kind ↔
    e.created? = some (kind, n) ∨ n ∈ c.names kind ∧ e.deleted? ≠ some (kind, n)
  created : ∀ kind n, e.created? = some (kind, n) → n ∉ c.names kind
  deleted : ∀ kind n, e.deleted? = some (kind, n) → n ∈ c.names kind

namespace NamesChange

theorem silent {c c' : Cluster ρ ε} {e : PlaneEvent} (h : ∀ kind, c'.names kind = c.names kind)
    (hcreate : e.created? = none) (hdelete : e.deleted? = none) : NamesChange c c' e := by
  refine ⟨?_, ?_, ?_⟩
  · intro kind n
    simp [h, hcreate, hdelete]
  · intro kind n hcreated
    rw [hcreate] at hcreated
    cases hcreated
  · intro kind n hdeleted
    rw [hdelete] at hdeleted
    cases hdeleted

/-- Only the store that was called matters. -/
theorem ofStore {c : Cluster ρ ε} {kind : Kind} {s : Store kind (ρ kind)} {log : Log}
    {e : PlaneEvent}
    (hiff : ∀ n, n ∈ s.memory.objects ↔
      e.created? = some (kind, n) ∨ n ∈ c.names kind ∧ e.deleted? ≠ some (kind, n))
    (hcreated : ∀ k n, e.created? = some (k, n) → k = kind ∧ n ∉ c.names kind)
    (hdeleted : ∀ k n, e.deleted? = some (k, n) → k = kind ∧ n ∈ c.names kind) :
    NamesChange c ({ c with log }.setStore kind s) e := by
  refine ⟨?_, ?_, ?_⟩
  · intro k n
    by_cases hk : k = kind
    · subst hk
      show n ∈ (({ c with log }.setStore k s).store k).memory.objects ↔ _
      rw [store_setStore]
      exact hiff n
    · -- another kind has its own store, which is the same before and after
      have hsame : ({ c with log }.setStore kind s).names k = c.names k := by
        rw [names, store_setStore_of_ne _ _ hk]
        cases k <;> rfl
      rw [hsame]
      constructor
      · exact fun h => .inr ⟨h, fun hd => hk (hdeleted k n hd).1⟩
      · rintro (h | h)
        · exact absurd (hcreated k n h).1 hk
        · exact h.1
  · intro k n h
    obtain ⟨rfl, hfree⟩ := hcreated k n h
    exact hfree
  · intro k n h
    obtain ⟨rfl, htaken⟩ := hdeleted k n h
    exact htaken

/-- A call that creates and deletes nothing. -/
theorem ofStore_silent {c : Cluster ρ ε} {kind : Kind} {s : Store kind (ρ kind)} {log : Log}
    {e : PlaneEvent} (h : ∀ n, n ∈ s.memory.objects ↔ n ∈ c.names kind)
    (hcreate : e.created? = none) (hdelete : e.deleted? = none) :
    NamesChange c ({ c with log }.setStore kind s) e := by
  refine ofStore ?_ ?_ ?_
  · simpa [hcreate, hdelete] using h
  · intro k n hcreated
    rw [hcreate] at hcreated
    cases hcreated
  · intro k n hdeleted
    rw [hdelete] at hdeleted
    cases hdeleted

end NamesChange

/-- Either something else answers, and not with success, or the store does. -/
theorem serve_store_cases {kind : Kind} {ρ : Type} (call : StoreCall kind.Model) (s : Store kind ρ)
    (log : Log) :
    (∃ reply faults log', s.serve call log = (reply, { s with faults }, log') ∧
        ∀ a, reply ≠ .returned (.ok a)) ∨
      ∃ faults log', s.serve call log =
        ((s.memory.serve call).1, ⟨(s.memory.serve call).2, faults⟩, log') := by
  unfold Store.serve
  rcases s.faults.take call with ⟨⟨⟩ | (e | payload), faults⟩
  · exact .inr ⟨_, _, rfl⟩
  · exact .inl ⟨_, _, _, rfl, by simp⟩
  · exact .inl ⟨_, _, _, rfl, by simp⟩

/-- Every call on a cluster changes the names as its reply says. -/
theorem namesChange_serve (c : Cluster ρ ε) (call : PlaneCall) :
    NamesChange c (c.serve call).2 ⟨.call call, (c.serve call).1⟩ := by
  cases call with
  | exec node command => exact .silent (fun kind => by cases kind <;> rfl) rfl rfl
  | pullSecret => exact .silent (fun kind => by cases kind <;> rfl) rfl rfl
  | store kind call =>
    rw [serve]
    rcases serve_store_cases call (c.store kind) c.log with
      ⟨reply, faults, log', hserve, hfail⟩ | ⟨faults, log', hserve⟩
    · rw [hserve]
      have hnone : Event.created? ⟨.call (.store kind call), reply⟩ = none ∧
          Event.deleted? ⟨.call (.store kind call), reply⟩ = none := by
        rcases reply with (e | a) | payload
        · cases call <;> exact ⟨rfl, rfl⟩
        · exact absurd rfl (hfail a)
        · cases call <;> exact ⟨rfl, rfl⟩
      exact .ofStore_silent (fun n => .rfl) hnone.1 hnone.2
    · rw [hserve]
      cases call with
      | get name =>
        exact .ofStore_silent (mem_get_iff _ name) (Event.created?_eq_none (by simp) _)
          (Event.deleted?_eq_none (by simp) _)
      | list =>
        exact .ofStore_silent (mem_list_iff _) (Event.created?_eq_none (by simp) _)
          (Event.deleted?_eq_none (by simp) _)
      | update name desired expected =>
        exact .ofStore_silent (fun n => mem_update_iff _ name n expected desired)
          (Event.created?_eq_none (by simp) _) (Event.deleted?_eq_none (by simp) _)
      | create object =>
        rcases create_cases (c.store kind).memory object with ⟨e, heq⟩ | ⟨hfree, heq⟩
        · rw [serve_create, heq]
          exact .ofStore_silent (fun n => .rfl) rfl rfl
        · rw [serve_create, heq]
          refine .ofStore ?_ ?_ ?_
          · intro n
            refine (mem_commit_iff _ _ n object).trans ?_
            simp [Event.created?, Event.deleted?, names]
          · rintro k n ⟨⟩
            exact ⟨rfl, hfree⟩
          · rintro k n ⟨⟩
      | delete name =>
        rcases delete_cases (c.store kind).memory name with ⟨e, heq⟩ | ⟨htaken, heq⟩
        · rw [serve_delete, heq]
          exact .ofStore_silent (fun n => .rfl) rfl rfl
        · rw [serve_delete, heq]
          refine .ofStore ?_ ?_ ?_
          · intro n
            refine (mem_erase_iff _ name n).trans ⟨?_, ?_⟩
            · rintro ⟨hne, hmem⟩
              refine .inr ⟨hmem, ?_⟩
              rintro ⟨⟩
              exact hne rfl
            · rintro (⟨⟨⟩⟩ | ⟨hmem, hne⟩)
              exact ⟨fun h => hne (congrArg (fun n => some (kind, n)) h), hmem⟩
          · rintro k n ⟨⟩
          · rintro k n ⟨⟩
            exact ⟨rfl, htaken⟩

/-- Time and chance leave the stores alone, and every call does as its reply says. -/
theorem namesChange_reply (q : planeInterface.timed.Query) (w : World (Cluster ρ ε)) :
    NamesChange w.plane (World.reply serve q w).2.plane ⟨q, (World.reply serve q w).1⟩ := by
  cases q with
  | call call =>
    rw [World.reply_call]
    exact namesChange_serve w.plane call
  | sleep span =>
    rw [World.reply_sleep]
    exact .silent (fun kind => by rw [World.plane_slept]) rfl rfl
  | _ => exact .silent (fun _ => rfl) rfl rfl

variable {w w' : World (Cluster ρ ε)} {t : PlaneTrace}

/-- Without a deletion, names are only added, each of which was free before. -/
theorem names_of_path_undeleted (h : Program.Path (World.reply serve) w t w')
    (hdelete : ∀ e ∈ t, Event.deleting? e = none) (kind : Kind) (n : String) :
    (n ∈ w'.plane.names kind ↔
      n ∈ w.plane.names kind ∨ ∃ e ∈ t, Event.created? e = some (kind, n)) ∧
    ((∃ e ∈ t, Event.created? e = some (kind, n)) → n ∉ w.plane.names kind) := by
  induction h with
  | nil w => simp
  | @cons w w' t query rest ih =>
    obtain ⟨hfirst, hrest⟩ := List.forall_mem_cons.mp hdelete
    have hchange := namesChange_reply query w
    generalize World.reply serve query w = next at hchange hfirst rest ih ⊢
    -- nothing is deleted, so the first step can only add a name
    have hnot : Event.deleted? ⟨query, next.1⟩ ≠ some (kind, n) := by
      intro hdeleted
      rw [Event.deleting?_of_deleted? hdeleted] at hfirst
      cases hfirst
    have hstep := hchange.iff kind n
    have hfree := hchange.created kind n
    obtain ⟨hiff, hlater⟩ := ih hrest
    constructor
    · rw [hiff, hstep, List.exists_mem_cons_iff]
      constructor
      · rintro ((hcreated | ⟨hmem, -⟩) | hcreated)
        · exact .inr (.inl hcreated)
        · exact .inl hmem
        · exact .inr (.inr hcreated)
      · rintro (hmem | hcreated | hcreated)
        · exact .inl (.inr ⟨hmem, hnot⟩)
        · exact .inl (.inl hcreated)
        · exact .inr hcreated
    · rw [List.exists_mem_cons_iff]
      rintro (hcreated | hcreated)
      · exact hfree hcreated
      · exact fun hmem => hlater hcreated (hstep.mpr (.inr ⟨hmem, hnot⟩))

/-- A name that is neither created nor deleted stays as it is. -/
theorem names_of_path_untouched (h : Program.Path (World.reply serve) w t w') {kind : Kind}
    {n : String} (hcreate : ∀ e ∈ t, Event.created? e ≠ some (kind, n))
    (hdelete : ∀ e ∈ t, Event.deleted? e ≠ some (kind, n)) :
    n ∈ w'.plane.names kind ↔ n ∈ w.plane.names kind := by
  induction h with
  | nil w => rfl
  | @cons w w' t query rest ih =>
    obtain ⟨hcreate, hcreates⟩ := List.forall_mem_cons.mp hcreate
    obtain ⟨hdelete, hdeletes⟩ := List.forall_mem_cons.mp hdelete
    rw [ih hcreates hdeletes, (namesChange_reply query w).iff kind n]
    constructor
    · rintro (hcreated | ⟨hmem, -⟩)
      · exact absurd hcreated hcreate
      · exact hmem
    · exact fun hmem => .inr ⟨hmem, hdelete⟩

/-- A deletion of a name that is taken frees it unless it fails. -/
theorem names_of_deletion {kind : Kind} {n : String} {o : Attempted Unit}
    (h : Program.Path (World.reply (I := planeInterface) serve) w
      [⟨.call (.store kind (.delete n)), o⟩] w')
    (hheld : n ∈ w.plane.names kind) :
    n ∈ w'.plane.names kind ↔ o ≠ .returned (.ok ()) := by
  have hchange : NamesChange w.plane w'.plane ⟨.call (.store kind (.delete n)), o⟩ := by
    cases h with
    | cons query rest =>
      cases rest
      exact namesChange_reply _ w
  rw [hchange.iff kind n]
  rcases o with (e | ⟨⟩) | payload <;> simp [Event.created?, Event.deleted?, hheld]

end Rehearsal.Cluster

end BuildTrial
