import Std.Data.String.ToNat
import BuildTrial.Proofs.Program.Trace
import BuildTrial.Proofs.Store.History

/-!
# How long a snapshot is fresh

Optimistic updates are exact with respect to the history of the store (`update_handedOut`): an update
against the version of a snapshot is accepted if nothing was committed under the name since the snapshot
was handed out, and then it replaces the very object of the snapshot. Otherwise it is refused and changes
nothing. What is known of a snapshot meanwhile is `Tracks`, and every step keeps it (`Tracks.step`).
-/

namespace BuildTrial

namespace MemoryStore

variable {T ρ : Type}

/-! ## What becomes of a snapshot -/

/-- What is known of an entry after what happened since it was handed out. It is still there if nothing
was committed under its name; otherwise whatever is there is newer. -/
structure Tracks (s : MemoryStore T ρ) (name : String) (entry : Entry T)
    (since : List (Happening T)) : Prop where
  known : entry.version ≤ s.counter
  current : .committed name ∉ since → s.objects[name]? = some entry
  outdated : .committed name ∈ since →
    ∀ e : Entry T, s.objects[name]? = some e → entry.version < e.version

variable {s s' : MemoryStore T ρ} {happened more : List (Happening T)}

theorem Step.bounded (h : Step s happened s') (hs : s.Bounded) : s'.Bounded := by
  cases h with
  | silent objects counter =>
    intro n e he
    rw [objects] at he
    rw [counter]
    exact hs n e he
  | committed name others fresh counter =>
    intro n e he
    by_cases hn : n = name
    · subst hn
      exact (fresh e he).2
    · rw [others n hn] at he
      exact Nat.le_trans (hs n e he) counter
  | handedOut => exact hs

theorem Unfolds.bounded (h : Unfolds s happened s') (hs : s.Bounded) : s'.Bounded := by
  induction h with
  | nil => exact hs
  | step _ hstep ih => exact hstep.bounded ih

theorem Tracks.step {name : String} {entry : Entry T} {since : List (Happening T)}
    (h : Tracks s name entry since) (hstep : Step s more s') :
    Tracks s' name entry (since ++ more) := by
  cases hstep with
  | silent objects counter =>
    rw [List.append_nil]
    refine ⟨by rw [counter]; exact h.known, fun hnone => ?_, fun hsome e he => ?_⟩
    · rw [objects]
      exact h.current hnone
    · rw [objects] at he
      exact h.outdated hsome e he
  | committed name' others fresh counter =>
    refine ⟨Nat.le_trans h.known counter, fun hnone => ?_, fun hsome e he => ?_⟩
    · simp only [List.mem_append, List.mem_singleton, Happening.committed.injEq, not_or] at hnone
      -- the commit was to another name
      rw [others name hnone.2]
      exact h.current hnone.1
    · by_cases hname : name = name'
      · -- the new version is ahead of the counter, and the counter not behind the entry
        subst hname
        exact Nat.lt_of_le_of_lt h.known (fresh e he).1
      · simp only [List.mem_append, List.mem_singleton, Happening.committed.injEq, hname,
          or_false] at hsome
        rw [others name hname] at he
        exact h.outdated hsome e he
  | handedOut =>
    refine ⟨h.known, fun hnone => h.current ?_, fun hsome => h.outdated ?_⟩
    · exact fun hmem => hnone (List.mem_append_left _ hmem)
    · simpa using hsome

/-- An entry that was just handed out. -/
theorem Tracks.start {name : String} {entry : Entry T} (hs : s.Bounded)
    (h : s.objects[name]? = some entry) : Tracks s name entry [] :=
  ⟨hs name entry h, fun _ => h, by simp⟩

/-- Every snapshot in the history is tracked. -/
theorem Unfolds.tracks (h : Unfolds s happened s') (hs : s.Bounded) {before since : List (Happening T)}
    {name : String} {v : Versioned T} (hhappened : happened = before ++ .handedOut name v :: since) :
    ∃ entry, v = entry.snapshot ∧ Tracks s' name entry since := by
  induction h generalizing before since with
  | nil => simp at hhappened
  | @step s' s'' happened more hbefore hstep ih =>
    rcases Program.exists_of_append_eq_append_cons hhappened with ⟨a, rfl, rfl⟩ | ⟨a, rfl, hmore⟩
    · obtain ⟨entry, hv, htracks⟩ := ih rfl
      exact ⟨entry, hv, htracks.step hstep⟩
    · -- the snapshot is of the last step, and nothing comes after it
      cases hstep with
      | silent => simp at hmore
      | committed => cases a <;> simp at hmore
      | handedOut name' entry stored =>
        cases a with
        | nil =>
          obtain ⟨⟨rfl, rfl⟩, rfl⟩ := by simpa using hmore
          exact ⟨entry, rfl, .start (hbefore.bounded hs) stored⟩
        | cons => simp at hmore

/-- A version is written in one way only, so one that is newer is written differently. -/
theorem Tracks.version_ne {name : String} {entry : Entry T} {since : List (Happening T)}
    (h : Tracks s name entry since) (hmem : .committed name ∈ since) (e : Entry T)
    (he : s.objects[name]? = some e) : toString e.version ≠ entry.snapshot.version := by
  intro heq
  have hlt := h.outdated hmem e he
  rw [Nat.repr_inj.mp heq] at hlt
  exact Nat.lt_irrefl _ hlt

/-! ## Updates are exact -/

variable [Resource T]

/-- Why an update that comes too late is refused. -/
inductive Refusal (s : MemoryStore T ρ) (name : String) : Error → Prop where
  | absent (h : name ∉ s.objects) : Refusal s name (.notFound (Resource.kindName T) name)
  | outdated (h : name ∈ s.objects) (reason : String) :
      Refusal s name (.conflict (Resource.kindName T) name reason)

/-- An update against another version than the stored one is refused, and only counted. -/
theorem refusal_of_update {name expected : String} (desired : T)
    (h : ∀ e : Entry T, s.objects[name]? = some e → toString e.version ≠ expected) :
    ∃ e, Refusal s name e ∧ s.update name desired expected =
      (.error e, { s with updateAttempts := s.updateAttempts + 1 }) := by
  have hmem := s.mem_iff_isSome name
  unfold update
  dsimp only
  cases hentry : s.objects[name]? with
  | none => exact ⟨_, .absent (by simp [hmem, hentry]), rfl⟩
  | some entry =>
    dsimp only
    rw [if_neg (h entry hentry)]
    exact ⟨_, .outdated (by simp [hmem, hentry]) _, rfl⟩

theorem follows_foldl_put (honest : s.Honest) (objects : List T) :
    Follows s (objects.foldl put s) := by
  induction objects generalizing s with
  | nil => exact .of_eq honest rfl rfl rfl
  | cons object objects ih =>
    have hput := follows_commit honest (Resource.name object) object
    exact hput.trans (ih hput.honest)

/-- In a store that was seeded with objects and on which anything was done since, take any snapshot that
was handed out on the way. An update against it is accepted just if nothing was committed under its name
since it was handed out, and then it replaces what the snapshot shows. Otherwise it is refused, for a
name that is gone as not found and else as a conflict, and but for the count of attempts the store stays
as it is. -/
theorem update_handedOut {objects : List T} {operations : List (Operation T ρ)}
    {before since : List (Happening T)} {name : String} {v : Versioned T}
    (h : (ofList objects).history operations = before ++ .handedOut name v :: since)
    {s : MemoryStore T ρ} (hs : (ofList objects).afterAll operations = s) (desired : T) :
    ((∃ v', (s.update name desired v.version).1 = .ok v') ↔ .committed name ∉ since) ∧
      (.committed name ∉ since → s.peek? name = some v) ∧
      (.committed name ∈ since → ∃ e, Refusal s name e ∧ s.update name desired v.version =
        (.error e, { s with updateAttempts := s.updateAttempts + 1 })) := by
  have hseeded : Follows ({} : MemoryStore T ρ) (ofList objects) :=
    follows_foldl_put (by rintro _ ⟨⟩) objects
  have hbounded : (ofList objects : MemoryStore T ρ).Bounded :=
    hseeded.bounded fun n e he => by simp at he
  obtain ⟨entry, rfl, htracks⟩ :=
    (unfolds_history hseeded.honest operations).tracks hbounded h
  rw [hs] at htracks
  by_cases hmem : .committed name ∈ since
  · obtain ⟨e, hrefusal, heq⟩ := refusal_of_update desired (htracks.version_ne hmem)
    refine ⟨⟨?_, fun hnone => absurd hmem hnone⟩, fun hnone => absurd hmem hnone,
      fun _ => ⟨e, hrefusal, heq⟩⟩
    rintro ⟨v', hv'⟩
    rw [heq] at hv'
    cases hv'
  · have hentry := htracks.current hmem
    refine ⟨⟨fun _ => hmem, fun _ => ?_⟩, fun _ => ?_, fun hsome => absurd hsome hmem⟩
    · exact ⟨_, congrArg Prod.fst (update_current desired hentry)⟩
    · rw [peek?, hentry]
      rfl

/-- A read that a competing write follows at once. -/
theorem update_handedOut_raced :
    (ofList [{ name := "layered" }] : MemoryStore Pool Unit).history
        [.foreignWrites 1, .call (.get "layered")] =
      [] ++ .handedOut "layered" ⟨{ name := "layered" }, "1"⟩ :: [.committed "layered"] ∧
    ∃ s : MemoryStore Pool Unit,
      (ofList [{ name := "layered" }]).afterAll [.foreignWrites 1, .call (.get "layered")] = s ∧
      ((∃ v', (s.update "layered" { name := "layered" } "1").1 = .ok v') ↔
        .committed "layered" ∉ [(.committed "layered" : Happening Pool)]) ∧
      (.committed "layered" ∉ [(.committed "layered" : Happening Pool)] →
        s.peek? "layered" = some ⟨{ name := "layered" }, "1"⟩) ∧
      (.committed "layered" ∈ [(.committed "layered" : Happening Pool)] →
        ∃ e, Refusal s "layered" e ∧ s.update "layered" { name := "layered" } "1" =
          (.error e, { s with updateAttempts := s.updateAttempts + 1 })) := by
  have h : (ofList [{ name := "layered" }] : MemoryStore Pool Unit).history
      [.foreignWrites 1, .call (.get "layered")] =
      [] ++ .handedOut "layered" ⟨{ name := "layered" }, "1"⟩ :: [.committed "layered"] := by decide
  exact ⟨h, _, rfl, update_handedOut h rfl { name := "layered" }⟩

end MemoryStore

end BuildTrial
