import Mathlib.Order.Bounds.Defs
import BuildTrial.Proofs.Program.Trace
import BuildTrial.Retry
import BuildTrial.Store

/-!
# The course of a retry

What the calls of an operation end with decides how many of them there are: they go on to the first
that succeeds, that fails for good, or that is the last one allowed (`Retry.Settles`). `Retry.course`
is what all of it asks. Calls and pauses take turns, and the pauses are the delays of one schedule, in
their order (`Backoff.Delays`). `retry_runs_course` says that every retry takes that course, whatever the
operation asks for itself and whatever its calls end with.

The attempts are counted in 32 bits, so the theorem is about the calls that can be counted. Without a
limit on the attempts that is the only other way for a retry to end, and it ends with a panic then.
-/

namespace BuildTrial

namespace RetryConfig

variable {config : RetryConfig} {attempt : Nat}

theorem isExhausted_iff :
    config.isExhausted attempt = true ↔ 0 < config.maxAttempts ∧ config.maxAttempts ≤ attempt := by
  simp [isExhausted]

theorem isExhausted_eq_false_iff :
    config.isExhausted attempt = false ↔ config.maxAttempts = 0 ∨ attempt < config.maxAttempts := by
  rw [← Bool.not_eq_true, isExhausted_iff]
  omega

end RetryConfig

namespace Backoff

variable {I : Interface}

/-- A pause, question by question. -/
theorem pause_eq (b : Backoff) :
    (b.pause : Program I.timed Backoff) = .ask .jitter fun factor =>
      match b.next factor with
      | .returned (span, after) => .ask (.sleep span) fun _ => .done after
      | .panicked payload => .panic payload := by
  refine congrArg (Program.ask (I := I.timed) .jitter) (funext fun factor => ?_)
  show (Program.ofOutcome (b.next factor)).bind _ = _
  cases b.next factor <;> rfl

/-- A pause asks for one random factor and then sleeps, unless the delay is no duration. -/
theorem runs_pause {b : Backoff} {t : Trace I.timed} {o : Outcome Backoff} (h : b.pause.Runs t o) :
    ∃ factor, (∃ span after, b.next factor = .returned (span, after) ∧
        t = [⟨.jitter, factor⟩, ⟨.sleep span, ()⟩] ∧ o = .returned after) ∨
      ∃ payload, b.next factor = .panicked payload ∧ t = [⟨.jitter, factor⟩] ∧
        o = .panicked payload := by
  rw [pause_eq] at h
  obtain ⟨factor, t', rfl, hrest⟩ := Program.runs_ask_iff.mp h
  refine ⟨factor, ?_⟩
  split at hrest
  · rename_i span after hn
    obtain ⟨⟨⟩, _, rfl, hend⟩ := Program.runs_ask_iff.mp hrest
    obtain ⟨rfl, rfl⟩ := Program.runs_done_iff.mp hend
    exact .inl ⟨span, after, hn, rfl, rfl⟩
  · rename_i payload hn
    obtain ⟨rfl, rfl⟩ := Program.runs_panic_iff.mp hrest
    exact .inr ⟨payload, hn, rfl, rfl⟩

/-- A pause asks for nothing but that factor and that sleep. -/
theorem asks_pause {P : Event I.timed → Prop} {b : Backoff}
    (hjitter : ∀ factor, P ⟨.jitter, factor⟩) (hsleep : ∀ span, P ⟨.sleep span, ()⟩) :
    b.pause.Asks P := by
  intro t o h
  obtain ⟨factor, ⟨span, _, -, rfl, -⟩ | ⟨_, -, rfl, -⟩⟩ := runs_pause h
  · rw [List.forall_mem_cons, List.forall_mem_singleton]
    exact ⟨hjitter factor, hsleep span⟩
  · rw [List.forall_mem_singleton]
    exact hjitter factor

theorem runs_pause_of_next {b after : Backoff} {factor : Jitter} {span : Duration}
    (h : b.next factor = .returned (span, after)) :
    (b.pause (I := I)).Runs [⟨.jitter, factor⟩, ⟨.sleep span, ()⟩] (.returned after) := by
  rw [pause_eq]
  refine Program.runs_ask_iff.mpr ⟨factor, _, rfl, ?_⟩
  rw [h]
  exact Program.runs_ask_iff.mpr ⟨(), [], rfl, .done after⟩

/-- The first delays of a schedule, as many as `n`, each with the random factor that stretches it and
with the schedule it is taken from. None of them panics. -/
structure Delays (b : Backoff) (factor : Nat → Jitter) (span : Nat → Duration)
    (schedule : Nat → Backoff) (n : Nat) : Prop where
  first : schedule 0 = b
  next : ∀ i < n, (schedule i).next (factor i) = .returned (span i, schedule (i + 1))

theorem Delays.tail {b : Backoff} {factor : Nat → Jitter} {span : Nat → Duration}
    {schedule : Nat → Backoff} {n : Nat} (h : b.Delays factor span schedule (n + 1)) :
    (schedule 1).Delays (fun i => factor (i + 1)) (fun i => span (i + 1))
      (fun i => schedule (i + 1)) n := by
  constructor
  · rfl
  · intro i hi
    exact h.next (i + 1) (Nat.succ_lt_succ hi)

end Backoff

namespace Retry

variable {I : Interface} {ε α : Type}

/-- The attempt with this number, from one, is the last if it ends so. -/
def Settles (config : RetryConfig) (retryable : ε → Bool) (attempt : Nat) : Except ε α → Prop
  | .ok _ => True
  | .error e => retryable e = false ∨ 0 < config.maxAttempts ∧ attempt = config.maxAttempts

/-- What is asked from the first call of an operation to its call number `last`, from zero: what each
call asks, and one pause between a call and the next. -/
def course (asked : Nat → Trace I.timed) (factor : Nat → Jitter) (span : Nat → Duration)
    (last : Nat) : Trace I.timed :=
  asked 0 ++ (List.range last).flatMap fun i =>
    ⟨.jitter, factor i⟩ :: ⟨.sleep (span i), ()⟩ :: asked (i + 1)

theorem course_succ (asked : Nat → Trace I.timed) (factor : Nat → Jitter) (span : Nat → Duration)
    (last : Nat) :
    course asked factor span (last + 1) =
      asked 0 ++ ([⟨.jitter, factor 0⟩, ⟨.sleep (span 0), ()⟩] ++
        course (fun i => asked (i + 1)) (fun i => factor (i + 1)) (fun i => span (i + 1)) last) := by
  simp [course, List.range_succ_eq_map, List.flatMap_map]

variable {config : RetryConfig} {retryable : ε → Bool}
  {operation : Program I.timed (Except ε α)}

/-- The rest of an attempt after its call. -/
def afterCall (config : RetryConfig) (retryable : ε → Bool)
    (operation : Program I.timed (Except ε α)) (left attempt : Nat) (b : Backoff) :
    Except ε α → Program I.timed (Except ε α)
  | .ok a => .done (.ok a)
  | .error e =>
    if !retryable e || config.isExhausted attempt then .done (.error e)
    else b.pause.bind fun after => attemptFrom config retryable operation left (attempt + 1) after

theorem attemptFrom_succ (left attempt : Nat) (b : Backoff) :
    attemptFrom config retryable operation (left + 1) attempt b =
      operation.bind (afterCall config retryable operation left attempt b) := by
  show operation.bind _ = _
  refine congrArg (Program.bind _) (funext fun r => ?_)
  cases r <;> rfl

theorem afterCall_of_settles {left attempt : Nat} {b : Backoff} {r : Except ε α}
    (h : Settles config retryable attempt r) :
    afterCall config retryable operation left attempt b r = .done r := by
  cases r with
  | ok a => rfl
  | error e =>
    refine if_pos ?_
    rcases h with hfinal | ⟨hlimit, hlast⟩
    · simp [hfinal]
    · simp [RetryConfig.isExhausted_iff, hlimit, hlast]

/-- What does not settle a retry is a retryable error with attempts left. -/
theorem afterCall_of_not_settles {left attempt : Nat} {b : Backoff} {r : Except ε α}
    (hallowed : config.maxAttempts = 0 ∨ attempt ≤ config.maxAttempts)
    (h : ¬Settles config retryable attempt r) :
    (config.maxAttempts = 0 ∨ attempt + 1 ≤ config.maxAttempts) ∧
      afterCall config retryable operation left attempt b r =
        b.pause.bind fun after =>
          attemptFrom config retryable operation left (attempt + 1) after := by
  cases r with
  | ok a => exact absurd trivial h
  | error e =>
    simp only [Settles, not_or, not_and, Bool.not_eq_false] at h
    obtain ⟨hretryable, hmore⟩ := h
    have hallowed' : config.maxAttempts = 0 ∨ attempt < config.maxAttempts := by omega
    refine ⟨by omega, if_neg ?_⟩
    simp [hretryable, RetryConfig.isExhausted_eq_false_iff.mpr hallowed']

/-- The attempts from a number on, up to the first that settles the retry. -/
theorem runs_attemptFrom {left attempt last : Nat} {b : Backoff} {result : Nat → Except ε α}
    {asked : Nat → Trace I.timed} {factor : Nat → Jitter} {span : Nat → Duration}
    {schedule : Nat → Backoff}
    (hallowed : config.maxAttempts = 0 ∨ attempt ≤ config.maxAttempts) (hcount : last < left)
    (hcalls : ∀ i ≤ last, operation.Runs (asked i) (.returned (result i)))
    (hdelays : b.Delays factor span schedule last)
    (hsettled : Settles config retryable (attempt + last) (result last))
    (hbefore : ∀ i < last, ¬Settles config retryable (attempt + i) (result i)) :
    (attemptFrom config retryable operation left attempt b).Runs (course asked factor span last)
      (.returned (result last)) := by
  induction left generalizing attempt last b result asked factor span schedule with
  | zero => exact absurd hcount (Nat.not_lt_zero _)
  | succ left ih =>
    rw [attemptFrom_succ]
    have hcall := hcalls 0 (Nat.zero_le _)
    cases last with
    | zero =>
      refine Program.runs_bind_iff.mpr (.inl ⟨asked 0, result 0, [], rfl, hcall, ?_⟩)
      have hlast : Settles config retryable attempt (result 0) := hsettled
      rw [afterCall_of_settles hlast]
      exact .done _
    | succ last =>
      rw [course_succ]
      refine Program.runs_bind_iff.mpr (.inl ⟨asked 0, result 0, _, rfl, hcall, ?_⟩)
      obtain ⟨hmore, hrest⟩ :=
        afterCall_of_not_settles hallowed (hbefore 0 (Nat.succ_pos last))
      have hnext := hdelays.next 0 (Nat.succ_pos last)
      rw [hdelays.first] at hnext
      rw [hrest]
      refine Program.runs_bind_iff.mpr (.inl ⟨_, schedule 1, _, rfl, Backoff.runs_pause_of_next hnext, ?_⟩)
      -- the rest is a course of its own, one attempt and one delay later
      have hlater : ∀ i ≤ last, operation.Runs (asked (i + 1)) (.returned (result (i + 1))) := by
        intro i hi
        exact hcalls (i + 1) (Nat.succ_le_succ hi)
      refine ih hmore (Nat.lt_of_succ_lt_succ hcount) hlater hdelays.tail ?_ ?_
      · rw [Nat.add_right_comm]
        exact hsettled
      · intro i hi
        rw [Nat.add_right_comm]
        exact hbefore (i + 1) (Nat.succ_lt_succ hi)

/-- Without a limit only a success or an error that is not retryable settles a retry. -/
theorem settles_of_runs {left attempt : Nat} {b : Backoff} {t : Trace I.timed} {r : Except ε α}
    (hendless : config.maxAttempts = 0)
    (h : (attemptFrom config retryable operation left attempt b).Runs t (.returned r)) :
    ∀ n, Settles config retryable n r := by
  induction left generalizing attempt b t with
  | zero =>
    obtain ⟨-, ho⟩ := Program.runs_panic_iff.mp h
    cases ho
  | succ left ih =>
    rw [attemptFrom_succ] at h
    rcases Program.runs_bind_iff.mp h with ⟨t₁, r', t₂, rfl, -, hrest⟩ | ⟨payload, -, ho⟩
    · by_cases hsettled : Settles config retryable attempt r'
      · rw [afterCall_of_settles hsettled] at hrest
        obtain ⟨-, hr⟩ := Program.runs_done_iff.mp hrest
        obtain rfl := Outcome.returned.inj hr
        -- without a limit no attempt is the last one, so the count does not matter
        intro n
        cases r with
        | ok a => trivial
        | error e => exact .inl (hsettled.resolve_right (by simp [hendless]))
      · rw [(afterCall_of_not_settles (.inl hendless) hsettled).2] at hrest
        rcases Program.runs_bind_iff.mp hrest with ⟨_, after, _, rfl, -, hattempts⟩ | ⟨_, -, ho⟩
        · exact ih hattempts
        · cases ho
    · cases ho

/-- Whatever the calls of an operation end with, a retry makes them up to the first that settles it, and
answers with what that one ended with. In between it sleeps once after each call, for the next delay of
its schedule. Without a limit on the attempts it comes back only with a success or with an error that
is not retryable. -/
theorem retry_runs_course (config : RetryConfig) (retryable : ε → Bool)
    (operation : Program I.timed (Except ε α)) :
    (∀ (result : Nat → Except ε α) (asked : Nat → Trace I.timed) (factor : Nat → Jitter)
        (span : Nat → Duration) (schedule : Nat → Backoff) (last : Nat),
      (∀ i ≤ last, operation.Runs (asked i) (.returned (result i))) →
      IsLeast {i | Settles config retryable (i + 1) (result i)} last → last + 1 < 2 ^ 32 →
      (Backoff.ofConfig config).Delays factor span schedule last →
      (retry config retryable operation).Runs (course asked factor span last)
        (.returned (result last))) ∧
    (config.maxAttempts = 0 → ∀ t r, (retry config retryable operation).Runs t (.returned r) →
      ∀ e, r = .error e → retryable e = false) := by
  constructor
  · intro result asked factor span schedule last hcalls hleast hcount hdelays
    have hallowed : config.maxAttempts = 0 ∨ 1 ≤ config.maxAttempts := by omega
    have hlimit : countLimit = 2 ^ 32 - 1 := rfl
    refine runs_attemptFrom hallowed (by omega) hcalls hdelays ?_ ?_
    · rw [Nat.add_comm]
      exact hleast.1
    · intro i hi hsettled
      rw [Nat.add_comm] at hsettled
      exact absurd (hleast.2 hsettled) (Nat.not_le_of_lt hi)
  · intro hendless t r h e hr
    have hsettled := settles_of_runs hendless h 0
    rw [hr] at hsettled
    exact hsettled.resolve_right (by simp [hendless])

/-- The connection is lost twice and then the pool is gone, which no repetition cures. -/
theorem retry_runs_course_gone :
    ∃ (lost gone : Error) (result : Nat → Except Error (Versioned Pool)),
      lost.isRetryable = true ∧ gone = .notFound "Pool" "layered" ∧
      (∀ i ≤ 2, result i = if i < 2 then .error lost else .error gone) ∧
      IsLeast {i | Settles (.withMaxAttempts 5) Error.isRetryable (i + 1) (result i)} 2 ∧
      (Backoff.ofConfig (.withMaxAttempts 5)).Delays (fun _ => .none)
        (fun i => .ofMillis (100 * 2 ^ i)) (fun i => ⟨.ofMillis (100 * 2 ^ i), .ofSecs 30, 2⟩) 2 ∧
      (retry (.withMaxAttempts 5) Error.isRetryable
          ((StoreCall.get "layered").run : StoreProgram Pool _)).Runs
        [⟨.call (.get "layered"), .returned (.error lost)⟩,
          ⟨.jitter, .none⟩, ⟨.sleep (.ofMillis 100), ()⟩,
          ⟨.call (.get "layered"), .returned (.error lost)⟩,
          ⟨.jitter, .none⟩, ⟨.sleep (.ofMillis 200), ()⟩,
          ⟨.call (.get "layered"), .returned (.error gone)⟩] (.returned (.error gone)) := by
  let lost : Error := .controlPlane "get Pool" "connection reset" true
  let gone : Error := .notFound "Pool" "layered"
  let result : Nat → Except Error (Versioned Pool) := fun i =>
    if i < 2 then .error lost else .error gone
  have hcalls : ∀ i ≤ 2, ((StoreCall.get "layered").run : StoreProgram Pool _).Runs
      [⟨.call (.get "layered"), .returned (result i)⟩] (.returned (result i)) := by
    intro i _
    exact Program.runs_ask_iff.mpr ⟨.returned (result i), [], rfl, .done _⟩
  have hleast : IsLeast {i | Settles (.withMaxAttempts 5) Error.isRetryable (i + 1) (result i)} 2 := by
    refine ⟨.inl rfl, fun i hsettled => Nat.le_of_not_lt fun hi => ?_⟩
    have hlost : result i = .error lost := if_pos hi
    change Settles _ _ (i + 1) (result i) at hsettled
    rw [hlost] at hsettled
    have hfifth : i + 1 = 5 := (hsettled.resolve_left (by decide)).2
    omega
  have hdelays : (Backoff.ofConfig (.withMaxAttempts 5)).Delays (fun _ => .none)
      (fun i => .ofMillis (100 * 2 ^ i)) (fun i => ⟨.ofMillis (100 * 2 ^ i), .ofSecs 30, 2⟩) 2 := by
    refine ⟨rfl, ?_⟩
    decide +kernel
  have hruns := (retry_runs_course (.withMaxAttempts 5) Error.isRetryable _).1 result _ _ _ _ 2 hcalls
    hleast (by decide) hdelays
  exact ⟨lost, gone, result, rfl, rfl, fun i _ => rfl, hleast, hdelays, hruns⟩

end Retry

end BuildTrial
