import BuildTrial.Proofs.Mutate.Settled

/-!
# An update that tolerates conflicts is a retry

`mutate` is a loop of its own, but its policy is the one of every retry. Its cycle is an operation like
any other (`Mutate.cycle`: read, mutate, update), and `retry` repeats that just as `mutate` does, if
nothing is retryable but a conflict of the update. The one difference is the answer to the last conflict
of all, which `mutate` replaces by an error that counts the attempts (`Mutate.reported`).

An error of a cycle says which of its two calls it comes from (`Mutate.Fault`), because that decides
what becomes of it: a conflict that a read comes back with ends the update like any other error.

The two loops are compared cycle by cycle (`cycleFrom_eq`). `Mutate.reporting` is the difference between
them: it changes answers, and no question.
-/

namespace BuildTrial

def Outcome.map {α β : Type} (f : α → β) : Outcome α → Outcome β
  | .returned a => .returned (f a)
  | .panicked payload => .panicked payload

namespace Mutate

/-- Why a cycle failed. -/
inductive Fault where
  | read (e : Error)
  | update (e : Error)

/-- Whether a fresh read may do better. -/
def Fault.retryable : Fault → Bool
  | .read _ => false
  | .update e => e.isConflict

variable {T α β : Type}

/-- One cycle: read an object, mutate a copy of it, and update it against the version that was read. -/
def cycle (name : String) (mutation : T → Outcome T) :
    StoreProgram T (Except Fault (Versioned T)) :=
  (StoreCall.get name).run.bind fun
    | .error e => .done (.error (.read e))
    | .ok current =>
      (Program.ofOutcome (mutation current.object)).bind fun desired =>
        (StoreCall.update name desired current.version).run.bind fun
          | .error e => .done (.error (.update e))
          | .ok committed => .done (.ok committed)

/-- How many reads there are in a trace. Every attempt begins with one. -/
def reads : StoreTrace T → Nat
  | [] => 0
  | ⟨.call (.get _), _⟩ :: t => reads t + 1
  | _ :: t => reads t

/-- The same program with answers that also depend on the number of its reads. -/
def reporting (report : Nat → β → α) : StoreProgram T β → StoreProgram T α
  | .done b => .done (report 0 b)
  | .panic payload => .panic payload
  | .ask (.call (.get name)) next =>
    .ask (.call (.get name)) fun reply => reporting (fun n => report (n + 1)) (next reply)
  | .ask query next => .ask query fun reply => reporting report (next reply)

theorem runs_ask_reporting_iff {query : (storeInterface T).timed.Query}
    {next : (storeInterface T).timed.Reply query → StoreProgram T β}
    {next' : (storeInterface T).timed.Reply query → StoreProgram T α} {report : Nat → β → α}
    {t : StoreTrace T} {o : Outcome α} (later : Nat → β → α)
    (hreads : ∀ reply rest, report (reads (⟨query, reply⟩ :: rest)) = later (reads rest))
    (hnext : ∀ reply rest, (next' reply).Runs rest o ↔
      ∃ o', (next reply).Runs rest o' ∧ o = o'.map (later (reads rest))) :
    (Program.ask query next').Runs t o ↔
      ∃ o', (Program.ask query next).Runs t o' ∧ o = o'.map (report (reads t)) := by
  simp only [Program.runs_ask_iff, hnext]
  constructor
  · rintro ⟨reply, rest, rfl, o', hrest, rfl⟩
    exact ⟨o', ⟨reply, rest, rfl, hrest⟩, by rw [hreads]⟩
  · rintro ⟨o', ⟨reply, rest, rfl, hrest⟩, rfl⟩
    exact ⟨reply, rest, rfl, o', hrest, by rw [hreads]⟩

/-- It asks what the program asks, and its answer is a report on the answer of the program. -/
theorem runs_reporting_iff {report : Nat → β → α} {p : StoreProgram T β} {t : StoreTrace T}
    {o : Outcome α} :
    (reporting report p).Runs t o ↔ ∃ o', p.Runs t o' ∧ o = o'.map (report (reads t)) := by
  induction p generalizing report t with
  | done b =>
    simp only [reporting, Program.runs_done_iff]
    constructor
    · rintro ⟨rfl, rfl⟩
      exact ⟨_, ⟨rfl, rfl⟩, rfl⟩
    · rintro ⟨_, ⟨rfl, rfl⟩, rfl⟩
      exact ⟨rfl, rfl⟩
  | panic payload =>
    simp only [reporting, Program.runs_panic_iff]
    constructor
    · rintro ⟨rfl, rfl⟩
      exact ⟨_, ⟨rfl, rfl⟩, rfl⟩
    · rintro ⟨_, ⟨rfl, rfl⟩, rfl⟩
      exact ⟨rfl, rfl⟩
  | ask query next ih =>
    -- only a `get` counts
    cases query with
    | call call =>
      cases call with
      | get name =>
        exact runs_ask_reporting_iff (fun n => report (n + 1)) (fun _ _ => rfl) fun reply _ => ih reply
      | _ => exact runs_ask_reporting_iff report (fun _ _ => rfl) fun reply _ => ih reply
    | _ => exact runs_ask_reporting_iff report (fun _ _ => rfl) fun reply _ => ih reply

theorem reporting_pause_bind {report : Nat → β → α} (b : Backoff) (rest : Backoff → StoreProgram T β) :
    reporting report (b.pause.bind rest) = b.pause.bind fun after => reporting report (rest after) := by
  rw [Backoff.pause_eq]
  refine congrArg (Program.ask _) (funext fun factor => ?_)
  dsimp only
  split <;> rfl

/-! ## What is not retried -/

/-- A call of an update that fails for good: a read that fails at all, or an update that fails other
than by a conflict, such as with an error that is retryable elsewhere. -/
inductive Fatal (name : String) : StoreEvent T → Error → Prop where
  | get (e : Error) : Fatal name ⟨.call (.get name), .returned (.error e)⟩ e
  | update (desired : T) (expected : String) (e : Error)
      (h : e.isRetryable = true ∨ e.isConflict = false) :
    Fatal name ⟨.call (.update name desired expected), .returned (.error e)⟩ e

/-- A call that fails for good is the last one, and its error is the answer. -/
def Prompt (name : String) (t : StoreTrace T) (o : Outcome (Except Error (Versioned T))) : Prop :=
  ∀ before event after e, t = before ++ event :: after → Fatal name event e →
    after = [] ∧ o = .returned (.error e)

namespace Prompt

variable {name : String} {t s : StoreTrace T} {event : StoreEvent T}
  {o : Outcome (Except Error (Versioned T))}

theorem nil : Prompt name ([] : StoreTrace T) o := by
  intro before event after e ht
  exact absurd ht (by simp)

theorem cons (hevent : ∀ e, ¬Fatal name event e) (h : Prompt name t o) :
    Prompt name (event :: t) o := by
  intro before event' after e ht hfatal
  cases before with
  | nil =>
    obtain ⟨rfl, -⟩ := List.cons.inj ht
    exact absurd hfatal (hevent e)
  | cons first before => exact h before event' after e (List.cons.inj ht).2 hfatal

theorem prepend (hs : ∀ event ∈ s, ∀ e, ¬Fatal name event e) (h : Prompt name t o) :
    Prompt name (s ++ t) o := by
  induction s with
  | nil => exact h
  | cons event s ih =>
    obtain ⟨hevent, hs⟩ := List.forall_mem_cons.mp hs
    exact .cons hevent (ih hs)

theorem last (h : ∀ e, Fatal name event e → o = .returned (.error e)) : Prompt name [event] o := by
  intro before event' after e ht hfatal
  cases before with
  | nil =>
    obtain ⟨rfl, rfl⟩ := List.cons.inj ht
    exact ⟨rfl, h e hfatal⟩
  | cons first before => exact absurd (List.cons.inj ht).2 (by simp)

end Prompt

theorem not_fatal_of_runs_pause {name : String} {b : Backoff} {t : StoreTrace T} {o : Outcome Backoff}
    (h : b.pause.Runs t o) : ∀ event ∈ t, ∀ e, ¬Fatal name event e :=
  Backoff.asks_pause (fun _ => nofun) (fun _ => nofun) t o h

/-! ## The two loops -/

variable [Resource T]

/-- How an update ends whose last cycle ends so, after this many attempts. -/
def reported (name : String) (attempts : Nat) :
    Except Fault (Versioned T) → Except Error (Versioned T)
  | .ok committed => .ok committed
  | .error (.read e) => .error e
  | .error (.update e) =>
    .error (if e.isConflict then .conflictExhausted (Resource.kindName T) name attempts else e)

/-- The cycles after some that have been made are the attempts of a retry. -/
theorem cycleFrom_eq (name : String) (config : RetryConfig) (mutation : T → Outcome T) :
    ∀ left made backoff, cycleFrom name config mutation left (made + 1) backoff =
      reporting (fun n => reported name (made + n))
        (Retry.attemptFrom config Fault.retryable (cycle name mutation) left (made + 1) backoff) := by
  intro left
  induction left with
  | zero => exact fun _ _ => rfl
  | succ left ih =>
    intro made backoff
    -- the loops part only at the last conflict, and there only in what they answer
    have hupdate : ∀ e, afterUpdate name config mutation left (made + 1) backoff (.error e) =
        reporting (fun n => reported name (made + (n + 1)))
          (Retry.afterCall config Fault.retryable (cycle name mutation) left (made + 1) backoff
            (.error (.update e))) := by
      intro e
      cases hconflict : e.isConflict with
      | false =>
        rw [afterUpdate_final hconflict]
        simp [Retry.afterCall, Fault.retryable, hconflict, reporting, reported]
      | true =>
        cases hlast : config.isExhausted (made + 1) with
        | true =>
          rw [afterUpdate_exhausted hconflict hlast]
          simp [Retry.afterCall, Fault.retryable, hconflict, hlast, reporting, reported]
        | false =>
          have hcount : ∀ n, made + 1 + n = made + (n + 1) := by omega
          rw [afterUpdate_again hconflict hlast]
          simp [Retry.afterCall, Fault.retryable, hconflict, hlast, reporting_pause_bind, ih, hcount]
    rw [cycleFrom_succ, Retry.attemptFrom_succ]
    refine congrArg (Program.ask _) (funext fun reply => ?_)
    rcases reply with (e | current) | payload
    · rfl
    · simp only [Program.ofOutcome, Program.bind, afterRead]
      cases mutation current.object with
      | panicked payload => rfl
      | returned desired =>
        refine congrArg (Program.ask _) (funext fun reply => ?_)
        rcases reply with (e | committed) | payload
        · exact hupdate e
        · rfl
        · rfl
    · rfl

theorem cycleFrom_prompt {name : String} {config : RetryConfig} {mutation : T → Outcome T}
    {left attempt : Nat} {backoff : Backoff} {t : StoreTrace T}
    {o : Outcome (Except Error (Versioned T))}
    (h : (cycleFrom name config mutation left attempt backoff).Runs t o) : Prompt name t o := by
  induction left generalizing attempt backoff t with
  | zero =>
    obtain ⟨rfl, -⟩ := Program.runs_panic_iff.mp h
    exact .nil
  | succ left ih =>
    cases runs_cycleFrom_succ h with
    | unread e =>
      apply Prompt.last
      intro e' hfatal
      cases hfatal
      rfl
    | broken reply payload hreply =>
      apply Prompt.last
      intro e' hfatal
      cases hfatal
      exact absurd rfl (hreply e')
    | committed current desired _ v => exact .cons nofun (.cons nofun .nil)
    | failed current desired _ e _ =>
      refine .cons nofun (Prompt.last fun e' hfatal => ?_)
      cases hfatal
      rfl
    | crashed current desired _ payload => exact .cons nofun (.cons nofun .nil)
    | conflicted current desired _ e hconflict rest =>
      have hnot : ∀ e', ¬Fatal name ⟨.call (.update name desired current.version),
          .returned (.error e)⟩ e' := by
        intro e' hfatal
        cases hfatal with
        | update _ _ _ h => simp [hconflict, Error.isRetryable_of_isConflict hconflict] at h
      refine .cons nofun (.cons hnot ?_)
      rcases runs_afterConflict hconflict rest with
        ⟨rfl, -⟩ | ⟨_, hpause, -⟩ | ⟨t₁, after, t₂, rfl, hpause, hagain⟩
      · exact .nil
      · simpa using Prompt.nil.prepend (not_fatal_of_runs_pause hpause)
      · exact (ih hagain).prepend (not_fatal_of_runs_pause hpause)

end Mutate

open Mutate

/-- An update that tolerates conflicts asks what the retry of its cycle asks, whatever the replies are,
and answers as that one does; only a conflict on the last allowed attempt is reported with the number of
attempts. Nothing but a conflict of the update is ever retried. -/
theorem mutate_is_retry {T : Type} [Resource T] (name : String) (config : RetryConfig)
    (mutation : T → Outcome T) :
    (∀ t o, (mutate name config mutation).Runs t o ↔
      ∃ o', (retry config Fault.retryable (cycle name mutation)).Runs t o' ∧
        o = o'.map (reported name (reads t))) ∧
    ∀ t o, (mutate name config mutation).Runs t o → Prompt name t o := by
  constructor
  · intro t o
    have hloops : mutate name config mutation =
        reporting (fun n => reported name (0 + n))
          (retry config Fault.retryable (cycle name mutation)) :=
      cycleFrom_eq name config mutation countLimit 0 (.ofConfig config)
    rw [hloops, runs_reporting_iff, Nat.zero_add]
  · intro t o h
    exact cycleFrom_prompt h

/-- With one attempt allowed, a conflict of its update is reported as the end of all attempts. A conflict
that the read comes back with is the answer. -/
theorem mutate_is_retry_once :
    ∃ (asked : StoreTrace Pool) (stale : Error), stale.isConflict = true ∧
      (retry (.withMaxAttempts 1) Fault.retryable (cycle "worker" .returned)).Runs asked
        (.returned (.error (.update stale))) ∧
      (mutate "worker" (.withMaxAttempts 1) .returned).Runs asked
        (.returned (.error (.conflictExhausted "Pool" "worker" 1))) ∧
      ∀ (t : StoreTrace Pool) (o : Outcome (Except Error (Versioned Pool))),
        (mutate "worker" (.withMaxAttempts 1) .returned).Runs
          (⟨.call (.get "worker"), .returned (.error stale)⟩ :: t) o →
        t = [] ∧ o = .returned (.error stale) := by
  let pool : Pool := { name := "worker" }
  let stale : Error := .conflict "Pool" "worker" "expected version 1 but stored version is 2"
  let asked : StoreTrace Pool :=
    [⟨.call (.get "worker"), .returned (.ok ⟨pool, "1"⟩)⟩,
      ⟨.call (.update "worker" pool "1"), .returned (.error stale)⟩]
  have hretry : (retry (.withMaxAttempts 1) Fault.retryable (cycle "worker" .returned)).Runs asked
      (.returned (.error (.update stale))) :=
    .ask _ (.ask _ (.done _))
  obtain ⟨hruns, hprompt⟩ := @mutate_is_retry Pool _ "worker" (.withMaxAttempts 1) .returned
  refine ⟨asked, stale, rfl, hretry, (hruns _ _).mpr ⟨_, hretry, rfl⟩, fun t o h => ?_⟩
  exact hprompt _ _ h [] _ t stale rfl (.get stale)

end BuildTrial
