import BuildTrial.Wait
import BuildTrial.Proofs.Mutate.Settled
import BuildTrial.Proofs.Program.Clock

/-!
# What a wait asks and how it ends

The reply to one read either ends a wait or leaves it to the next poll. `Wait.decision` says which, and
with it a poll is one question and one case distinction (`pollFrom_eq`). So every wait is a stretch of
polls that decided nothing, followed by the poll that decided it, by the end of the budget, or by the
end of what can be counted (`waitFor_ended`). Two things follow of every run of a wait, whatever it is
told: it reads one name, looks at the clock and sleeps (`waitFor_polls`), and if it ends well it has just
read the snapshot that it answers with (`waitFor_satisfied`).

Polls cannot be counted only if there are very many of them. In a trace on whose clock time passes
(`Ticks`) they come the poll interval apart, so it takes a budget of that length (`pollFrom_countdown`).
-/

namespace BuildTrial

namespace Wait

variable {T : Type}

/-- The way from one poll to the next, unless that would come after the budget. -/
def again (name : String) (config : WaitConfig) (predicate : T → Verdict) (start : Instant)
    (left : Nat) : StoreProgram T (Except Error (Versioned T)) :=
  Program.now.bind fun now =>
    if config.timeout < now.since start + config.pollInterval then
      .done (.error (.timeout config.description (now.since start)))
    else (Program.sleep config.pollInterval).bind fun _ =>
      pollFrom name config predicate start left

/-- The rest of a poll after the answer to its read. -/
def afterPoll (name : String) (config : WaitConfig) (predicate : T → Verdict) (start : Instant)
    (left : Nat) : Except Error (Versioned T) → StoreProgram T (Except Error (Versioned T))
  | .ok snapshot =>
    match predicate snapshot.object with
    | .satisfied => .done (.ok snapshot)
    | .unrecoverable reason => .done (.error (.unrecoverable config.description reason))
    | .notYet => again name config predicate start left
  | .error e => if e.isRetryable then again name config predicate start left else .done (.error e)

theorem pollFrom_succ (name : String) (config : WaitConfig) (predicate : T → Verdict)
    (start : Instant) (left : Nat) :
    pollFrom name config predicate start (left + 1) =
      (StoreCall.get name).run.bind (afterPoll name config predicate start left) := by
  show (StoreCall.get name).run.bind _ = _
  refine congrArg (Program.bind _) (funext fun answer => ?_)
  cases answer with
  | error e => rfl
  | ok snapshot =>
    simp only [afterPoll]
    cases predicate snapshot.object <;> rfl

/-- How a poll with this reply ends the wait, unless the wait goes on. -/
def decision (config : WaitConfig) (predicate : T → Verdict) :
    Attempted (Versioned T) → Option (Outcome (Except Error (Versioned T)))
  | .panicked payload => some (.panicked payload)
  | .returned (.error e) => if e.isRetryable then none else some (.returned (.error e))
  | .returned (.ok snapshot) =>
    match predicate snapshot.object with
    | .satisfied => some (.returned (.ok snapshot))
    | .unrecoverable reason =>
      some (.returned (.error (.unrecoverable config.description reason)))
    | .notYet => none

variable {name : String} {config : WaitConfig} {predicate : T → Verdict} {start : Instant}

theorem decision_ok_eq_none_iff {snapshot : Versioned T} :
    decision config predicate (.returned (.ok snapshot)) = none ↔
      predicate snapshot.object = .notYet := by
  simp only [decision]
  cases predicate snapshot.object <;> simp

theorem decision_eq_ok_iff {reply : Attempted (Versioned T)} {v : Versioned T} :
    decision config predicate reply = some (.returned (.ok v)) ↔
      reply = .returned (.ok v) ∧ predicate v.object = .satisfied := by
  constructor
  · intro h
    rcases reply with (e | snapshot) | payload
    · simp [decision] at h
    · simp only [decision] at h
      split at h
      · rename_i hsatisfied
        cases h
        exact ⟨rfl, hsatisfied⟩
      · cases h
      · cases h
    · cases h
  · rintro ⟨rfl, hsatisfied⟩
    simp [decision, hsatisfied]

/-- The description of a wait is all of its configuration that a decision looks at. -/
theorem decision_congr {config' : WaitConfig} (h : config'.description = config.description) :
    decision config' predicate = decision config predicate := by
  funext reply
  rcases reply with (e | snapshot) | payload
  · rfl
  · simp only [decision, h]
  · rfl

theorem pollFrom_eq (name : String) (config : WaitConfig) (predicate : T → Verdict)
    (start : Instant) (left : Nat) :
    pollFrom name config predicate start (left + 1) = .ask (.call (.get name)) fun reply =>
      match decision config predicate reply with
      | some o => Program.ofOutcome o
      | none => again name config predicate start left := by
  rw [pollFrom_succ]
  refine congrArg (Program.ask _) (funext fun reply => ?_)
  rcases reply with (e | snapshot) | payload
  · simp only [Program.ofOutcome, Program.bind, afterPoll, decision]
    cases e.isRetryable <;> rfl
  · simp only [Program.ofOutcome, Program.bind, afterPoll, decision]
    cases predicate snapshot.object <;> rfl
  · rfl

/-! ## Every way to end -/

/-- A question of a wait that decides nothing. -/
inductive Undecided (name : String) (config : WaitConfig) (predicate : T → Verdict) :
    StoreEvent T → Prop where
  | get (reply : Attempted (Versioned T)) (h : decision config predicate reply = none) :
      Undecided name config predicate ⟨.call (.get name), reply⟩
  | now (instant : Instant) : Undecided name config predicate ⟨.now, instant⟩
  | sleep (span : Duration) : Undecided name config predicate ⟨.sleep span, ()⟩

/-- How what a wait asked goes together with how it ended. -/
inductive Ended (name : String) (config : WaitConfig) (predicate : T → Verdict) :
    StoreTrace T → Outcome (Except Error (Versioned T)) → Prop where
  | decided {s : StoreTrace T} (idle : ∀ e ∈ s, Undecided name config predicate e)
      (reply : Attempted (Versioned T)) (o : Outcome (Except Error (Versioned T)))
      (h : decision config predicate reply = some o) :
      Ended name config predicate (s ++ [⟨.call (.get name), reply⟩]) o
  | timedOut {s : StoreTrace T} (idle : ∀ e ∈ s, Undecided name config predicate e)
      (waited : Duration) :
      Ended name config predicate s (.returned (.error (.timeout config.description waited)))
  | overflowed {s : StoreTrace T} (idle : ∀ e ∈ s, Undecided name config predicate e) :
      Ended name config predicate s (.panicked countOverflow)

theorem Ended.cons {e : StoreEvent T} {s : StoreTrace T}
    {o : Outcome (Except Error (Versioned T))} (he : Undecided name config predicate e)
    (h : Ended name config predicate s o) : Ended name config predicate (e :: s) o := by
  cases h with
  | decided idle reply o h => exact .decided (List.forall_mem_cons.mpr ⟨he, idle⟩) reply o h
  | timedOut idle waited => exact .timedOut (List.forall_mem_cons.mpr ⟨he, idle⟩) waited
  | overflowed idle => exact .overflowed (List.forall_mem_cons.mpr ⟨he, idle⟩)

/-- The error of a wait is one that the store gave, or one of the two of its own. -/
theorem Ended.of_error {s : StoreTrace T} {e : Error}
    (h : Ended name config predicate s (.returned (.error e))) :
    (∃ call, (⟨.call call, .returned (.error e)⟩ : StoreEvent T) ∈ s) ∨
      (∃ reason, e = .unrecoverable config.description reason) ∨
      ∃ waited, e = .timeout config.description waited := by
  cases h with
  | decided _ reply _ hdecision =>
    rcases reply with (e' | snapshot) | payload
    · simp only [decision] at hdecision
      split at hdecision
      · cases hdecision
      · cases hdecision
        exact .inl ⟨.get name, by simp⟩
    · simp only [decision] at hdecision
      split at hdecision
      · cases hdecision
      · cases hdecision
        exact .inr (.inl ⟨_, rfl⟩)
      · cases hdecision
    · cases hdecision
  | timedOut _ waited => exact .inr (.inr ⟨waited, rfl⟩)

/-- What happens after a poll that decided nothing: the budget is used up, or there is one more
sleep. -/
theorem runs_again_iff {left : Nat} {s : StoreTrace T} {o : Outcome (Except Error (Versioned T))} :
    (again name config predicate start left).Runs s o ↔
      ∃ (now : Instant) (rest : StoreTrace T), s = ⟨.now, now⟩ :: rest ∧
        ((config.timeout < now.since start + config.pollInterval ∧ rest = [] ∧
            o = .returned (.error (.timeout config.description (now.since start)))) ∨
          ¬config.timeout < now.since start + config.pollInterval ∧
            ∃ rest', rest = ⟨.sleep config.pollInterval, ()⟩ :: rest' ∧
              (pollFrom name config predicate start left).Runs rest' o) := by
  unfold again
  constructor
  · intro h
    obtain ⟨now, rest, rfl, hnext⟩ := Program.runs_ask_iff.mp h
    refine ⟨now, rest, rfl, ?_⟩
    simp only [Program.bind] at hnext
    split at hnext
    · rename_i hlate
      obtain ⟨rfl, rfl⟩ := Program.runs_done_iff.mp hnext
      exact .inl ⟨hlate, rfl, rfl⟩
    · rename_i hintime
      obtain ⟨⟨⟩, rest', rfl, hpolls⟩ := Program.runs_ask_iff.mp hnext
      exact .inr ⟨hintime, rest', rfl, hpolls⟩
  · rintro ⟨now, rest, rfl, h⟩
    refine Program.runs_ask_iff.mpr ⟨now, rest, rfl, ?_⟩
    simp only [Program.bind]
    rcases h with ⟨hlate, rfl, rfl⟩ | ⟨hintime, rest', rfl, h⟩
    · rw [if_pos hlate]
      exact .done _
    · rw [if_neg hintime]
      exact Program.runs_ask_iff.mpr ⟨(), rest', rfl, h⟩

theorem pollFrom_ended :
    ∀ {left : Nat} {s : StoreTrace T} {o : Outcome (Except Error (Versioned T))},
      (pollFrom name config predicate start left).Runs s o → Ended name config predicate s o := by
  intro left
  induction left with
  | zero =>
    intro s o h
    obtain ⟨rfl, rfl⟩ := Program.runs_panic_iff.mp h
    exact .overflowed (by simp)
  | succ left ih =>
    intro s o h
    rw [pollFrom_eq] at h
    obtain ⟨reply, s, rfl, hread⟩ := Program.runs_ask_iff.mp h
    split at hread
    · rename_i o' hdecision
      obtain ⟨rfl, rfl⟩ := Program.runs_ofOutcome_iff.mp hread
      exact .decided (s := []) (by simp) reply _ hdecision
    · rename_i hdecision
      refine .cons (.get reply hdecision) ?_
      obtain ⟨now, s, rfl, ⟨-, rfl, rfl⟩ | ⟨-, s, rfl, hpolls⟩⟩ := runs_again_iff.mp hread
      · exact .timedOut (List.forall_mem_singleton.mpr (.now now)) _
      · exact .cons (.now now) (.cons (.sleep _) (ih hpolls))

/-! ## What can be said of every run -/

/-- A question of a wait for the object with the given name. -/
inductive Poll (name : String) : StoreEvent T → Prop where
  | get (reply : Attempted (Versioned T)) : Poll name ⟨.call (.get name), reply⟩
  | now (instant : Instant) : Poll name ⟨.now, instant⟩
  | sleep (span : Duration) : Poll name ⟨.sleep span, ()⟩

theorem Undecided.poll {e : StoreEvent T} (h : Undecided name config predicate e) : Poll name e := by
  cases h with
  | get reply _ => exact .get reply
  | now instant => exact .now instant
  | sleep span => exact .sleep span

theorem Ended.polls {s : StoreTrace T} {o : Outcome (Except Error (Versioned T))}
    (h : Ended name config predicate s o) : ∀ e ∈ s, Poll name e := by
  cases h with
  | decided idle reply _ _ =>
    rw [List.forall_mem_append, List.forall_mem_singleton]
    exact ⟨fun e he => (idle e he).poll, .get reply⟩
  | timedOut idle _ => exact fun e he => (idle e he).poll
  | overflowed idle => exact fun e he => (idle e he).poll

theorem Ended.satisfied {s : StoreTrace T} {v : Versioned T}
    (h : Ended name config predicate s (.returned (.ok v))) :
    predicate v.object = .satisfied ∧ ∃ t, s = t ++ [⟨.call (.get name), .returned (.ok v)⟩] := by
  cases h with
  | @decided s _ reply _ hdecision =>
    obtain ⟨rfl, hsatisfied⟩ := decision_eq_ok_iff.mp hdecision
    exact ⟨hsatisfied, s, rfl⟩

end Wait

/-- Every wait polls without a decision until a poll decides it, its budget is used up, or its polls
cannot be counted any more. -/
theorem waitFor_ended {T : Type} {name : String} {config : WaitConfig} {predicate : T → Verdict}
    {s : StoreTrace T} {o : Outcome (Except Error (Versioned T))}
    (h : (waitFor name config predicate).Runs s o) : Wait.Ended name config predicate s o := by
  obtain ⟨start, s, rfl, hpolls⟩ := Program.runs_ask_iff.mp h
  exact .cons (.now start) (Wait.pollFrom_ended hpolls)

theorem waitFor_polls {T : Type} {name : String} {config : WaitConfig} {predicate : T → Verdict}
    {t : StoreTrace T} {o : Outcome (Except Error (Versioned T))}
    (h : (waitFor name config predicate).Runs t o) : ∀ e ∈ t, Wait.Poll name e :=
  (waitFor_ended h).polls

/-- A wait that ends well ends right after reading the snapshot that it answers with. -/
theorem waitFor_satisfied {T : Type} {name : String} {config : WaitConfig} {predicate : T → Verdict}
    {t : StoreTrace T} {v : Versioned T}
    (h : (waitFor name config predicate).Runs t (.returned (.ok v))) :
    predicate v.object = .satisfied ∧ ∃ s, t = s ++ [⟨.call (.get name), .returned (.ok v)⟩] :=
  (waitFor_ended h).satisfied

/-! ## Time passes -/

namespace Wait

variable {T : Type} {name : String} {config : WaitConfig} {predicate : T → Verdict}
  {start : Instant}

/-- Polls are the poll interval apart, so a wait in which nothing is decided takes all the time that its
polls take. -/
theorem pollFrom_countdown {payload : Panic} (hinterval : config.pollInterval ≤ World.longestSleep) :
    ∀ {left polled : Nat} {earliest : Duration} {s : StoreTrace T},
      (pollFrom name config predicate start left).Runs s (.panicked payload) →
      (∀ e ∈ s, Undecided name config predicate e) → Ticks earliest s →
      start.sinceStart.nanos + polled * config.pollInterval.nanos ≤ earliest.nanos →
      polled * config.pollInterval.nanos ≤ config.timeout.nanos →
      (polled + left) * config.pollInterval.nanos ≤ config.timeout.nanos := by
  intro left
  induction left with
  | zero => exact fun _ _ _ _ hbudget => hbudget
  | succ left ih =>
    intro polled earliest s h hidle hticks hearliest hbudget
    rw [pollFrom_eq] at h
    obtain ⟨reply, s, rfl, hread⟩ := Program.runs_ask_iff.mp h
    obtain ⟨hundecided, hidle⟩ := List.forall_mem_cons.mp hidle
    cases hundecided with
    | get _ hdecision =>
      simp only [hdecision] at hread
      obtain ⟨now, s, rfl, ⟨-, -, ho⟩ | ⟨hintime, s, rfl, hpolls⟩⟩ := runs_again_iff.mp hread
      · cases ho
      · obtain ⟨hnow, hticks⟩ : earliest ≤ now.sinceStart ∧ Ticks _ s := hticks
        -- one more poll has been paid for with a whole interval of the clock
        have hmin : (min config.pollInterval World.longestSleep).nanos =
            config.pollInterval.nanos := by
          rw [Duration.nanos_min]
          exact Nat.min_eq_left hinterval
        have hwaited : (now.since start).nanos = now.sinceStart.nanos - start.sinceStart.nanos := rfl
        rw [Duration.lt_def, Duration.nanos_add, hwaited] at hintime
        rw [Duration.le_def] at hnow
        have hnext : (polled + 1) * config.pollInterval.nanos =
            polled * config.pollInterval.nanos + config.pollInterval.nanos := Nat.succ_mul _ _
        rw [show polled + (left + 1) = polled + 1 + left by omega]
        refine ih hpolls (fun e he => hidle e (by simp [he])) hticks ?_ ?_
        · rw [Duration.nanos_add, hmin, hnext]
          omega
        · rw [hnext]
          omega

end Wait

end BuildTrial
