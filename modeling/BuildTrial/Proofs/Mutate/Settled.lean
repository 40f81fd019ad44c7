import BuildTrial.Mutate
import BuildTrial.Proofs.Retry.Course

/-!
# What an update that tolerates conflicts asks

However often `mutate` starts again, it asks about one name only: reads, updates, and the pauses
between them. It stops at the first update that the store takes, so that update, if there is one, is
the last question, and its answer is what `mutate` answers. `Mutate.Settled` says both at once, and
`mutate_settled` proves it of every run, whatever the store replies. `Mutate.Edited` adds what the
update stores, and `Mutate.Follows` says of each update, taken or not, that it goes by the read right
before it.
-/

namespace BuildTrial

/-- A question to a store, or one about time and chance, with its reply. -/
abbrev StoreEvent (T : Type) : Type := Event (storeInterface T).timed

abbrev StoreTrace (T : Type) : Type := Trace (storeInterface T).timed

namespace Mutate

variable {T : Type} [Resource T]

/-- The rest of a cycle after the answer to its update. -/
def afterUpdate (name : String) (config : RetryConfig) (mutation : T → Outcome T)
    (left attempt : Nat) (backoff : Backoff) :
    Except Error (Versioned T) → StoreProgram T (Except Error (Versioned T))
  | .ok committed => .done (.ok committed)
  | .error e =>
    if !e.isConflict then .done (.error e)
    else if config.isExhausted attempt then
      .done (.error (.conflictExhausted (Resource.kindName T) name attempt))
    else backoff.pause.bind fun after => cycleFrom name config mutation left (attempt + 1) after

/-- The rest of a cycle after the answer to its read. -/
def afterRead (name : String) (config : RetryConfig) (mutation : T → Outcome T)
    (left attempt : Nat) (backoff : Backoff) :
    Except Error (Versioned T) → StoreProgram T (Except Error (Versioned T))
  | .error e => .done (.error e)
  | .ok current => (Program.ofOutcome (mutation current.object)).bind fun desired =>
    (StoreCall.update name desired current.version).run.bind
      (afterUpdate name config mutation left attempt backoff)

theorem cycleFrom_succ (name : String) (config : RetryConfig) (mutation : T → Outcome T)
    (left attempt : Nat) (backoff : Backoff) :
    cycleFrom name config mutation (left + 1) attempt backoff =
      (StoreCall.get name).run.bind (afterRead name config mutation left attempt backoff) := by
  show (StoreCall.get name).run.bind _ = _
  refine congrArg (Program.bind _) (funext fun answer => ?_)
  cases answer with
  | error e => rfl
  | ok current =>
    refine congrArg (Program.bind _) (funext fun desired => ?_)
    refine congrArg (Program.bind _) (funext fun answer => ?_)
    cases answer with
    | error e => rfl
    | ok committed => rfl

section

variable {name : String} {config : RetryConfig} {mutation : T → Outcome T} {left attempt : Nat}
  {backoff : Backoff} {e : Error}

theorem afterUpdate_exhausted (hconflict : e.isConflict = true)
    (hlast : config.isExhausted attempt = true) :
    afterUpdate name config mutation left attempt backoff (.error e) =
      .done (.error (.conflictExhausted (Resource.kindName T) name attempt)) := by
  simp [afterUpdate, hconflict, hlast]

theorem afterUpdate_again (hconflict : e.isConflict = true)
    (hmore : config.isExhausted attempt = false) :
    afterUpdate name config mutation left attempt backoff (.error e) =
      backoff.pause.bind fun after =>
        cycleFrom name config mutation left (attempt + 1) after := by
  simp [afterUpdate, hconflict, hmore]

theorem afterUpdate_final (hfinal : e.isConflict = false) :
    afterUpdate name config mutation left attempt backoff (.error e) = .done (.error e) := by
  simp [afterUpdate, hfinal]

end

end Mutate

namespace Mutate

variable {T : Type}

/-- A question of an update of `name` that commits nothing. -/
inductive Vain (name : String) : StoreEvent T → Prop where
  | get (reply : Attempted (Versioned T)) : Vain name ⟨.call (.get name), reply⟩
  | update (desired : T) (expected : String) (reply : Attempted (Versioned T))
      (h : ∀ v, reply ≠ .returned (.ok v)) : Vain name ⟨.call (.update name desired expected), reply⟩
  | jitter (factor : Jitter) : Vain name ⟨.jitter, factor⟩
  | sleep (span : Duration) : Vain name ⟨.sleep span, ()⟩

/-- How what an update of `name` asked goes together with how it ended. -/
inductive Settled (name : String) :
    StoreTrace T → Outcome (Except Error (Versioned T)) → Prop where
  /-- The store took the last update and none before it. -/
  | committed {t : StoreTrace T} (vain : ∀ e ∈ t, Vain name e) (desired : T) (expected : String)
      (v : Versioned T) :
      Settled name (t ++ [⟨.call (.update name desired expected), .returned (.ok v)⟩])
        (.returned (.ok v))
  /-- The store took none. -/
  | failed {t : StoreTrace T} {o : Outcome (Except Error (Versioned T))}
      (vain : ∀ e ∈ t, Vain name e) (h : ∀ v, o ≠ .returned (.ok v)) : Settled name t o

/-- The same, with what the store took: the mutation of what the read right before it had shown. -/
inductive Edited (name : String) (mutation : T → Outcome T) :
    StoreTrace T → Outcome (Except Error (Versioned T)) → Prop where
  | committed {t : StoreTrace T} (vain : ∀ e ∈ t, Vain name e) (current : Versioned T) (desired : T)
      (edit : mutation current.object = .returned desired) (v : Versioned T) :
      Edited name mutation (t ++ [⟨.call (.get name), .returned (.ok current)⟩,
        ⟨.call (.update name desired current.version), .returned (.ok v)⟩]) (.returned (.ok v))
  | failed {t : StoreTrace T} {o : Outcome (Except Error (Versioned T))}
      (vain : ∀ e ∈ t, Vain name e) (h : ∀ v, o ≠ .returned (.ok v)) : Edited name mutation t o

namespace Edited

variable {name : String} {mutation : T → Outcome T} {e : StoreEvent T} {t : StoreTrace T}
  {o : Outcome (Except Error (Versioned T))}

theorem cons (he : Vain name e) (h : Edited name mutation t o) :
    Edited name mutation (e :: t) o := by
  cases h with
  | committed vain current desired edit v =>
    exact .committed (List.forall_mem_cons.mpr ⟨he, vain⟩) current desired edit v
  | failed vain h => exact .failed (List.forall_mem_cons.mpr ⟨he, vain⟩) h

theorem prepend {s : StoreTrace T} (h : Edited name mutation t o) (hs : ∀ e ∈ s, Vain name e) :
    Edited name mutation (s ++ t) o := by
  induction s with
  | nil => exact h
  | cons e s ih =>
    obtain ⟨he, hs⟩ := List.forall_mem_cons.mp hs
    exact .cons he (ih hs)

theorem nil (h : ∀ v, o ≠ .returned (.ok v)) : Edited name mutation ([] : StoreTrace T) o :=
  .failed (by simp) h

theorem settled (h : Edited name mutation t o) : Settled name t o := by
  cases h with
  | @committed t vain current desired _ v =>
    have hvain : ∀ e ∈ t ++ [⟨.call (.get name), .returned (.ok current)⟩], Vain name e := by
      intro e he
      rcases List.mem_append.mp he with he | he
      · exact vain e he
      · rw [List.mem_singleton.mp he]
        exact .get _
    have hcommitted := Settled.committed hvain desired current.version v
    rwa [List.append_assoc] at hcommitted
  | failed vain h => exact .failed vain h

end Edited

theorem vain_of_runs_pause {name : String} {b : Backoff} {t : StoreTrace T} {o : Outcome Backoff}
    (h : b.pause.Runs t o) : ∀ e ∈ t, Vain name e :=
  Backoff.asks_pause .jitter .sleep t o h

/-- What an update of `name` may ask for, once it has asked for this: reads and pauses, and right after a
read the update to what was read, mutated, and to the version that was read. -/
inductive Follows (name : String) (mutation : T → Outcome T) (s : StoreTrace T) :
    StoreEvent T → Prop where
  | get (reply : Attempted (Versioned T)) : Follows name mutation s ⟨.call (.get name), reply⟩
  | update (current : Versioned T) (desired : T) (edit : mutation current.object = .returned desired)
      (shown : s.getLast? = some ⟨.call (.get name), .returned (.ok current)⟩)
      (reply : Attempted (Versioned T)) :
      Follows name mutation s ⟨.call (.update name desired current.version), reply⟩
  | jitter (factor : Jitter) : Follows name mutation s ⟨.jitter, factor⟩
  | sleep (span : Duration) : Follows name mutation s ⟨.sleep span, ()⟩

section

variable {name : String} {mutation : T → Outcome T} {s t : StoreTrace T} {e : StoreEvent T}

theorem Follows.prepend (h : Follows name mutation s e) (t : StoreTrace T) :
    Follows name mutation (t ++ s) e := by
  cases h with
  | get reply => exact .get reply
  | update current desired edit shown reply =>
    refine .update current desired edit ?_ reply
    rw [List.getLast?_append, shown]
    rfl
  | jitter factor => exact .jitter factor
  | sleep span => exact .sleep span

theorem follows_append (ht : Program.Throughout (Follows name mutation) t)
    (hs : Program.Throughout (Follows name mutation) s) :
    Program.Throughout (Follows name mutation) (t ++ s) :=
  ht.append fun s' e u heq => (hs s' e u heq).prepend t

theorem follows_get (reply : Attempted (Versioned T)) :
    Program.Throughout (Follows name mutation) [⟨.call (.get name), reply⟩] :=
  .concat .nil (.get reply)

/-- A read, and the update that goes by it. -/
theorem follows_get_update (current : Versioned T) {desired : T}
    (edit : mutation current.object = .returned desired) (reply : Attempted (Versioned T)) :
    Program.Throughout (Follows name mutation) [⟨.call (.get name), .returned (.ok current)⟩,
      ⟨.call (.update name desired current.version), reply⟩] :=
  (follows_get _).concat (.update current desired edit rfl reply)

theorem follows_of_runs_pause {b : Backoff} {o : Outcome Backoff} (h : b.pause.Runs t o) :
    Program.Throughout (Follows name mutation) t := by
  rintro s e u rfl
  exact Backoff.asks_pause (P := fun e => Follows name mutation s e) .jitter .sleep _ o h e (by simp)

end

variable [Resource T]

/-- What one cycle asks and how it ends. After a conflict it has not ended yet. -/
inductive CycleRuns (name : String) (config : RetryConfig) (mutation : T → Outcome T)
    (left attempt : Nat) (backoff : Backoff) :
    StoreTrace T → Outcome (Except Error (Versioned T)) → Prop where
  /-- The read fails. -/
  | unread (e : Error) : CycleRuns name config mutation left attempt backoff
      [⟨.call (.get name), .returned (.error e)⟩] (.returned (.error e))
  /-- The read or the mutation panics. -/
  | broken (reply : Attempted (Versioned T)) (payload : Panic)
      (hreply : ∀ e, reply ≠ .returned (.error e)) :
      CycleRuns name config mutation left attempt backoff [⟨.call (.get name), reply⟩]
        (.panicked payload)
  | committed (current : Versioned T) (desired : T) (edit : mutation current.object = .returned desired)
      (v : Versioned T) : CycleRuns name config mutation left attempt backoff
      [⟨.call (.get name), .returned (.ok current)⟩,
        ⟨.call (.update name desired current.version), .returned (.ok v)⟩] (.returned (.ok v))
  | failed (current : Versioned T) (desired : T) (edit : mutation current.object = .returned desired)
      (e : Error) (hfinal : e.isConflict = false) : CycleRuns name config mutation left attempt backoff
      [⟨.call (.get name), .returned (.ok current)⟩,
        ⟨.call (.update name desired current.version), .returned (.error e)⟩] (.returned (.error e))
  | crashed (current : Versioned T) (desired : T) (edit : mutation current.object = .returned desired)
      (payload : Panic) : CycleRuns name config mutation left attempt backoff
      [⟨.call (.get name), .returned (.ok current)⟩,
        ⟨.call (.update name desired current.version), .panicked payload⟩] (.panicked payload)
  | conflicted (current : Versioned T) (desired : T)
      (edit : mutation current.object = .returned desired) (e : Error)
      (hconflict : e.isConflict = true) {t : StoreTrace T} {o : Outcome (Except Error (Versioned T))}
      (rest : (afterUpdate name config mutation left attempt backoff (.error e)).Runs t o) :
      CycleRuns name config mutation left attempt backoff
      (⟨.call (.get name), .returned (.ok current)⟩ ::
        ⟨.call (.update name desired current.version), .returned (.error e)⟩ :: t) o

section

variable {name : String} {config : RetryConfig} {mutation : T → Outcome T} {left attempt : Nat}
  {backoff : Backoff} {t : StoreTrace T} {o : Outcome (Except Error (Versioned T))}

theorem runs_cycleFrom_succ
    (h : (cycleFrom name config mutation (left + 1) attempt backoff).Runs t o) :
    CycleRuns name config mutation left attempt backoff t o := by
  rw [cycleFrom_succ] at h
  obtain ⟨reply, t, rfl, hread⟩ := Program.runs_ask_iff.mp h
  rcases reply with (e | current) | payload
  · obtain ⟨rfl, rfl⟩ := Program.runs_done_iff.mp hread
    exact .unread e
  · simp only [Program.ofOutcome, Program.bind, afterRead] at hread
    cases hm : mutation current.object with
    | panicked payload =>
      rw [hm] at hread
      obtain ⟨rfl, rfl⟩ := Program.runs_panic_iff.mp hread
      exact .broken _ payload (by simp)
    | returned desired =>
      rw [hm] at hread
      obtain ⟨reply, t, rfl, hwrite⟩ := Program.runs_ask_iff.mp hread
      rcases reply with (e | v) | payload
      · change (afterUpdate name config mutation left attempt backoff (.error e)).Runs t o at hwrite
        cases hconflict : e.isConflict with
        | true => exact .conflicted current desired hm e hconflict hwrite
        | false =>
          rw [afterUpdate_final hconflict] at hwrite
          obtain ⟨rfl, rfl⟩ := Program.runs_done_iff.mp hwrite
          exact .failed current desired hm e hconflict
      · obtain ⟨rfl, rfl⟩ := Program.runs_done_iff.mp hwrite
        exact .committed current desired hm v
      · obtain ⟨rfl, rfl⟩ := Program.runs_panic_iff.mp hwrite
        exact .crashed current desired hm payload
  · obtain ⟨rfl, rfl⟩ := Program.runs_panic_iff.mp hread
    exact .broken _ payload (by simp)

/-- After a conflict an update gives up, or pauses and starts again. -/
theorem runs_afterConflict {e : Error} (hconflict : e.isConflict = true)
    (h : (afterUpdate name config mutation left attempt backoff (.error e)).Runs t o) :
    (t = [] ∧ o = .returned (.error (.conflictExhausted (Resource.kindName T) name attempt))) ∨
      (∃ payload, backoff.pause.Runs t (.panicked payload) ∧ o = .panicked payload) ∨
      ∃ t₁ after t₂, t = t₁ ++ t₂ ∧ backoff.pause.Runs t₁ (.returned after) ∧
        (cycleFrom name config mutation left (attempt + 1) after).Runs t₂ o := by
  cases hlast : config.isExhausted attempt with
  | true =>
    rw [afterUpdate_exhausted hconflict hlast] at h
    exact .inl (Program.runs_done_iff.mp h)
  | false =>
    rw [afterUpdate_again hconflict hlast] at h
    rcases Program.runs_bind_iff.mp h with hagain | hpanicked
    · exact .inr (.inr hagain)
    · exact .inr (.inl hpanicked)

theorem cycleFrom_edited (h : (cycleFrom name config mutation left attempt backoff).Runs t o) :
    Edited name mutation t o := by
  induction left generalizing attempt backoff t with
  | zero =>
    obtain ⟨rfl, rfl⟩ := Program.runs_panic_iff.mp h
    exact .nil (by simp)
  | succ left ih =>
    cases runs_cycleFrom_succ h with
    | unread e => exact .cons (.get _) (.nil (by simp))
    | broken reply payload _ => exact .cons (.get _) (.nil (by simp))
    | committed current desired edit v => exact .committed (t := []) (by simp) current desired edit v
    | failed current desired _ e _ =>
      exact .cons (.get _) (.cons (.update _ _ _ (by simp)) (.nil (by simp)))
    | crashed current desired _ payload =>
      exact .cons (.get _) (.cons (.update _ _ _ (by simp)) (.nil (by simp)))
    | conflicted current desired _ e hconflict rest =>
      refine .cons (.get _) (.cons (.update _ _ _ (by simp)) ?_)
      rcases runs_afterConflict hconflict rest with
        ⟨rfl, rfl⟩ | ⟨_, hpause, rfl⟩ | ⟨t₁, after, t₂, rfl, hpause, hagain⟩
      · exact .nil (by simp)
      · exact .failed (vain_of_runs_pause hpause) (by simp)
      · exact (ih hagain).prepend (vain_of_runs_pause hpause)

theorem cycleFrom_follows (h : (cycleFrom name config mutation left attempt backoff).Runs t o) :
    Program.Throughout (Follows name mutation) t := by
  induction left generalizing attempt backoff t with
  | zero =>
    obtain ⟨rfl, -⟩ := Program.runs_panic_iff.mp h
    exact .nil
  | succ left ih =>
    cases runs_cycleFrom_succ h with
    | unread e => exact follows_get _
    | broken reply payload _ => exact follows_get reply
    | committed current desired edit v => exact follows_get_update current edit _
    | failed current desired edit e _ => exact follows_get_update current edit _
    | crashed current desired edit payload => exact follows_get_update current edit _
    | conflicted current desired edit e hconflict rest =>
      refine follows_append (follows_get_update current edit (.returned (.error e))) ?_
      rcases runs_afterConflict hconflict rest with
        ⟨rfl, -⟩ | ⟨_, hpause, -⟩ | ⟨t₁, after, t₂, rfl, hpause, hagain⟩
      · exact .nil
      · exact follows_of_runs_pause hpause
      · exact follows_append (follows_of_runs_pause hpause) (ih hagain)

/-- The error of an update is one that the store gave, or says that there were too many conflicts. -/
theorem cycleFrom_failed {e : Error}
    (h : (cycleFrom name config mutation left attempt backoff).Runs t (.returned (.error e))) :
    (∃ call, (⟨.call call, .returned (.error e)⟩ : StoreEvent T) ∈ t) ∨
      ∃ attempts, e = .conflictExhausted (Resource.kindName T) name attempts := by
  induction left generalizing attempt backoff t with
  | zero => cases (Program.runs_panic_iff.mp h).2
  | succ left ih =>
    cases runs_cycleFrom_succ h with
    | unread => exact .inl ⟨_, List.mem_singleton_self _⟩
    | failed current desired => exact .inl ⟨_, List.mem_cons_of_mem _ (List.mem_singleton_self _)⟩
    | conflicted current desired _ e' hconflict rest =>
      rcases runs_afterConflict hconflict rest with
        ⟨-, ho⟩ | ⟨_, -, ho⟩ | ⟨t₁, after, t₂, rfl, -, hagain⟩
      · exact .inr ⟨attempt, Except.error.inj (Outcome.returned.inj ho)⟩
      · cases ho
      · refine (ih hagain).imp_left ?_
        rintro ⟨call, hmem⟩
        exact ⟨call, by simp [hmem]⟩

end

end Mutate

/-- An update that tolerates conflicts writes only what it was shown by the read right before the write,
mutated, and on condition that the version is still the one of that read. -/
theorem mutate_follows {T : Type} [Resource T] {name : String} {config : RetryConfig}
    {mutation : T → Outcome T} {t : StoreTrace T} {o : Outcome (Except Error (Versioned T))}
    (h : (mutate name config mutation).Runs t o) :
    Program.Throughout (Mutate.Follows name mutation) t :=
  Mutate.cycleFrom_follows h

/-- Whatever is said of reads, of pauses, and of updates to a mutated object holds of all that an update
that tolerates conflicts asks. -/
theorem asks_mutate {T : Type} [Resource T] {P : StoreEvent T → Prop} {name : String}
    {config : RetryConfig} {mutation : T → Outcome T}
    (hget : ∀ reply, P ⟨.call (.get name), reply⟩)
    (hupdate : ∀ current desired expected reply, mutation current = .returned desired →
      P ⟨.call (.update name desired expected), reply⟩)
    (hjitter : ∀ factor, P ⟨.jitter, factor⟩) (hsleep : ∀ span, P ⟨.sleep span, ()⟩) :
    (mutate name config mutation).Asks P := by
  intro t o h e he
  obtain ⟨s, u, rfl⟩ := List.append_of_mem he
  cases mutate_follows h s e u rfl with
  | get reply => exact hget reply
  | update current desired edit _ reply => exact hupdate _ desired _ reply edit
  | jitter factor => exact hjitter factor
  | sleep span => exact hsleep span

theorem mutate_edited {T : Type} [Resource T] {name : String} {config : RetryConfig}
    {mutation : T → Outcome T} {t : StoreTrace T} {o : Outcome (Except Error (Versioned T))}
    (h : (mutate name config mutation).Runs t o) : Mutate.Edited name mutation t o :=
  Mutate.cycleFrom_edited h

/-- An update that tolerates conflicts commits at most once, and just before it ends with the answer
of that commit. -/
theorem mutate_settled {T : Type} [Resource T] {name : String} {config : RetryConfig}
    {mutation : T → Outcome T} {t : StoreTrace T} {o : Outcome (Except Error (Versioned T))}
    (h : (mutate name config mutation).Runs t o) : Mutate.Settled name t o :=
  (mutate_edited h).settled

end BuildTrial
