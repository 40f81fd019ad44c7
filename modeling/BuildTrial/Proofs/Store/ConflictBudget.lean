import BuildTrial.Proofs.Mutate.Settled
import BuildTrial.Proofs.Program.Calls
import BuildTrial.Proofs.Store.Reconciled

/-!
# The budget for conflicts

A client that is alone with a store meets a conflict as often as competing writes are pending, one for
each of its reads, so whether it gets through is arithmetic: the pending writes and one attempt more
against the attempts that are allowed. `mutate_against_writes` says how often it reads and writes on
either side of that boundary, and what it leaves behind.

The attempts that conflict are counted from the first one on (`finishes_conflicts`). What they leave of
the store is `Raced`, and in particular nothing of the mutation.
-/

namespace BuildTrial

open Program Mutate

namespace Program

variable {I : Interface} {σ β : Type} {answer : (q : I.Query) → σ → I.Reply q × σ} {w w' : World σ}
  {o : Outcome β} {asked : Trace I}

theorem Finishes.pause {b after : Backoff} {span : Duration} {rest : Backoff → Program I.timed β}
    (hnext : b.next (w.jitter w.jitters) = .returned (span, after))
    (h : Finishes answer (rest after) ({ w with jitters := w.jitters + 1 }.slept span) o w' asked) :
    Finishes answer (b.pause.bind rest) w o w' asked := by
  rw [Backoff.pause_eq]
  apply Finishes.jitter
  dsimp only
  rw [hnext]
  exact h.sleep

end Program

variable {T ρ : Type} [Resource T] {name : String} {config : RetryConfig} {f : T → T}
  {w w' : World (MemoryStore T ρ)} {s₁ s₂ : MemoryStore T ρ}
  {o : Outcome (Except Error (Versioned T))} {asked : Trace (storeInterface T)}

/-- One cycle: its read and its update, and then what the answer to the update leads to. -/
theorem finishes_cycle {current : Versioned T} {result : Except Error (Versioned T)} {left attempt : Nat}
    {backoff : Backoff}
    (hget : w.plane.serve (.get name) = (.returned (.ok current), s₁))
    (hupdate : s₁.serve (.update name (f current.object) current.version) = (.returned result, s₂))
    (h : Finishes MemoryStore.serve
      (afterUpdate name config (fun object => .returned (f object)) left attempt backoff result)
      { w with plane := s₂ } o w' asked) :
    Finishes MemoryStore.serve
      (cycleFrom name config (fun object => .returned (f object)) (left + 1) attempt backoff) w o w'
      (⟨.get name, .returned (.ok current)⟩ ::
        ⟨.update name (f current.object) current.version, .returned result⟩ :: asked) := by
  rw [cycleFrom_succ]
  refine Finishes.answered hget ?_
  refine Finishes.answered hupdate ?_
  exact h

/-- So many attempts meet a conflict, and there are more to come. -/
theorem finishes_conflicts {span : Nat → Duration} {schedule : Nat → Backoff} {k : Nat}
    (f : T → T) (hreachable : w.plane.Reachable) (hsteady : w.plane.NeverPanics)
    (hstored : name ∈ w.plane.objects) (hpending : k ≤ w.plane.foreignWrites)
    (hmore : config.maxAttempts = 0 ∨ k < config.maxAttempts)
    (hdelays : (Backoff.ofConfig config).Delays (fun i => w.jitter (w.jitters + i)) span schedule k) :
    ∃ w₁ made, MemoryStore.Raced name k w.plane w₁.plane ∧ w₁.jitter = w.jitter ∧
      w₁.jitters = w.jitters + k ∧ ∀ left o w' asked,
        Finishes MemoryStore.serve (cycleFrom name config (fun object => .returned (f object)) left
          (k + 1) (schedule k)) w₁ o w' asked →
        Finishes MemoryStore.serve (cycleFrom name config (fun object => .returned (f object)) (left + k)
          1 (.ofConfig config)) w o w' (made ++ asked) := by
  induction k with
  | zero =>
    refine ⟨w, [], .zero hreachable hsteady hstored, rfl, rfl, fun left o w' asked h => ?_⟩
    rw [hdelays.first] at h
    exact h
  | succ k ih =>
    have hfewer : (Backoff.ofConfig config).Delays (fun i => w.jitter (w.jitters + i)) span schedule k :=
      ⟨hdelays.first, fun i hi => hdelays.next i (Nat.lt_succ_of_lt hi)⟩
    obtain ⟨w₁, made, hraced, hjitter, hjitters, hrest⟩ :=
      ih (Nat.le_of_succ_le hpending) (by omega) hfewer
    obtain ⟨current, message, s₁, s₂, hget, hupdate, hnext⟩ := hraced.next hpending f
    have hallowed : config.isExhausted (k + 1) = false := RetryConfig.isExhausted_eq_false_iff.mpr hmore
    have hdelay := hdelays.next k (Nat.lt_succ_self k)
    rw [← hjitter, ← hjitters] at hdelay
    let w₂ : World (MemoryStore T ρ) :=
      { { w₁ with plane := s₂ } with jitters := w₁.jitters + 1 }.slept (span k)
    -- the world after the pause, in which the next attempt begins
    have hworld : w₂.plane = s₂ := World.plane_slept _ _
    refine ⟨w₂, made ++ [⟨.get name, .returned (.ok current)⟩, ⟨.update name (f current.object)
      current.version, .returned (.error (.conflict (Resource.kindName T) name message))⟩], ?_, hjitter,
      congrArg (· + 1) hjitters, fun left o w' asked h => ?_⟩
    · rw [hworld]
      exact hnext
    · have hcount : left + (k + 1) = left + 1 + k := by omega
      rw [hcount, List.append_assoc]
      refine hrest (left + 1) o w' _ (finishes_cycle hget hupdate ?_)
      rw [afterUpdate_again rfl hallowed]
      exact Finishes.pause hdelay h

/-- An update has got through: its last read showed what the reconciler had made of the object by then,
and the mutation of that is stored, is the answer, and meets no further competition. -/
structure Prevailed (name : String) (f : T → T) (attempts : Nat) (s s' : MemoryStore T ρ)
    (o : Outcome (Except Error (Versioned T))) (asked : Trace (storeInterface T)) : Prop where
  gets : s'.gets = s.gets + attempts
  updateAttempts : s'.updateAttempts = s.updateAttempts + attempts
  committed : ∃ before current v, asked = before ++ [⟨.get name, .returned (.ok current)⟩,
      ⟨.update name (f current.object) current.version, .returned (.ok v)⟩] ∧
    (s.reconciledTimes attempts).objectAt name = some current.object ∧
    v.object = f current.object ∧ s'.peek? name = some v ∧ o = .returned (.ok v)
  foreignWrites : s'.foreignWrites = 0

/-- An update has given up: the reconciler has acted before each of its reads, and nothing else has
changed any object. -/
structure Surrendered (name : String) (attempts : Nat) (s s' : MemoryStore T ρ)
    (o : Outcome (Except Error (Versioned T))) : Prop where
  gets : s'.gets = s.gets + attempts
  updateAttempts : s'.updateAttempts = s.updateAttempts + attempts
  answer : o = .returned (.error (.conflictExhausted (Resource.kindName T) name attempts))
  foreignWrites : s'.foreignWrites = s.foreignWrites - attempts
  objects : ∀ n, s'.objectAt n = (s.reconciledTimes attempts).objectAt n

/-- Against `n` competing writes an update gets through at attempt `n + 1`, if it may be attempted so
often, and otherwise gives up after all its attempts. -/
theorem mutate_against_writes (config : RetryConfig) (f : T → T) (hreachable : w.plane.Reachable)
    (hsteady : w.plane.NeverPanics) (hstored : name ∈ w.plane.objects)
    (hcount : w.plane.foreignWrites + 1 < 2 ^ 32) :
    (config.maxAttempts = 0 ∨ w.plane.foreignWrites < config.maxAttempts →
      ∀ span schedule, (Backoff.ofConfig config).Delays (fun i => w.jitter (w.jitters + i)) span
        schedule w.plane.foreignWrites →
      ∃ o w' asked,
        Finishes MemoryStore.serve (mutate name config fun object => .returned (f object)) w o w'
          asked ∧
        Prevailed name f (w.plane.foreignWrites + 1) w.plane w'.plane o asked) ∧
    (0 < config.maxAttempts → config.maxAttempts ≤ w.plane.foreignWrites →
      ∀ span schedule, (Backoff.ofConfig config).Delays (fun i => w.jitter (w.jitters + i)) span
        schedule (config.maxAttempts - 1) →
      ∃ o w' asked,
        Finishes MemoryStore.serve (mutate name config fun object => .returned (f object)) w o w'
          asked ∧
        Surrendered name config.maxAttempts w.plane w'.plane o) := by
  have hlimit : countLimit = 2 ^ 32 - 1 := rfl
  constructor
  · intro hmore span schedule hdelays
    obtain ⟨w₁, made, hraced, -, -, hrest⟩ :=
      finishes_conflicts f hreachable hsteady hstored (Nat.le_refl _) hmore hdelays
    obtain ⟨current, v, s₁, s₂, hget, hupdate, hgets, hattempts, hshown, hobject, hpeek, hquiet⟩ :=
      hraced.commit rfl f
    obtain ⟨left, hleft⟩ : ∃ left, countLimit = left + 1 + w.plane.foreignWrites :=
      ⟨countLimit - (1 + w.plane.foreignWrites), by omega⟩
    have hfinishes := hrest (left + 1) _ _ _ (finishes_cycle hget hupdate (finishes_done _))
    rw [← hleft] at hfinishes
    exact ⟨_, _, _, hfinishes, hgets, hattempts,
      ⟨made, current, v, rfl, hshown, hobject, hpeek, rfl⟩, hquiet⟩
  · intro hpos hfew span schedule hdelays
    obtain ⟨k, hk⟩ : ∃ k, config.maxAttempts = k + 1 := Nat.exists_eq_succ_of_ne_zero (by omega)
    rw [hk] at hfew hdelays ⊢
    obtain ⟨w₁, made, hraced, -, -, hrest⟩ :=
      finishes_conflicts f hreachable hsteady hstored (Nat.le_of_succ_le hfew) (by omega) hdelays
    obtain ⟨current, message, s₁, s₂, hget, hupdate, hlast⟩ := hraced.next hfew f
    obtain ⟨left, hleft⟩ : ∃ left, countLimit = left + 1 + k := ⟨countLimit - (1 + k), by omega⟩
    have hexhausted : config.isExhausted (k + 1) = true :=
      RetryConfig.isExhausted_iff.mpr (by omega)
    have hend : Finishes MemoryStore.serve
        (afterUpdate name config (fun object => .returned (f object)) left (k + 1) (schedule k)
          (.error (.conflict (Resource.kindName T) name message)))
        { w₁ with plane := s₂ }
        (.returned (.error (.conflictExhausted (Resource.kindName T) name (k + 1))))
        { w₁ with plane := s₂ } [] := by
      rw [afterUpdate_exhausted rfl hexhausted]
      exact finishes_done _
    have hfinishes := hrest (left + 1) _ _ _ (finishes_cycle hget hupdate hend)
    rw [← hleft] at hfinishes
    exact ⟨_, _, _, hfinishes, hlast.gets, hlast.updateAttempts, rfl, hlast.foreignWrites,
      hlast.alike.objects⟩

/-- Two competing writes, and a reconciler that starts a build whenever it is asked: three attempts are
enough for the update, and two are not. -/
theorem mutate_against_writes_two :
    ∃ (f : Pool → Pool) (w : World (MemoryStore Pool Unit)), w.plane.foreignWrites = 2 ∧
      (∃ o w' asked, Finishes MemoryStore.serve
        (mutate "worker" (.withMaxAttempts 3) fun pool => .returned (f pool)) w o w' asked ∧
          Prevailed "worker" f 3 w.plane w'.plane o asked) ∧
      ∃ o w' asked, Finishes MemoryStore.serve
        (mutate "worker" (.withMaxAttempts 2) fun pool => .returned (f pool)) w o w' asked ∧
          Surrendered "worker" 2 w.plane w'.plane o := by
  let r : Reconciler Pool Unit :=
    ⟨(), fun memory pool => (memory, { pool with state := .building }, .returned true)⟩
  let f : Pool → Pool := fun pool => { pool with image := some "layered" }
  let s : MemoryStore Pool Unit := .after {} [.put { name := "worker" }, .reconcileBy r, .foreignWrites 2]
  have hsteady : s.NeverPanics := by
    intro r' hr'
    obtain rfl := Option.some.inj hr'
    exact fun memory pool => ⟨_, _, _, rfl⟩
  have hstored : "worker" ∈ s.objects := by decide +kernel
  have hdelays : ∀ m, (Backoff.ofConfig (.withMaxAttempts m)).Delays (fun _ => .none)
      (fun i => .ofMillis (100 * 2 ^ i)) (fun i => ⟨.ofMillis (100 * 2 ^ i), .ofSecs 30, 2⟩) 2 := by
    intro m
    refine ⟨rfl, ?_⟩
    decide +kernel
  have hthree := mutate_against_writes (w := World.start s) (.withMaxAttempts 3) f ⟨_, rfl⟩ hsteady
    hstored (by decide)
  have htwo := mutate_against_writes (w := World.start s) (.withMaxAttempts 2) f ⟨_, rfl⟩ hsteady
    hstored (by decide)
  refine ⟨f, World.start s, rfl, hthree.1 (.inr (by decide)) _ _ (hdelays 3), ?_⟩
  exact htwo.2 (by decide) (by decide) _ _
    ⟨rfl, fun i hi => (hdelays 2).next i (Nat.lt_succ_of_lt hi)⟩

end BuildTrial
