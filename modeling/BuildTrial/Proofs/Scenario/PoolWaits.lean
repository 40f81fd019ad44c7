import BuildTrial.Proofs.Scenario.Budget
import BuildTrial.Proofs.Scenario.Knowledge
import BuildTrial.Proofs.Wait.Polls

/-!
# What the waits for a build see

The two waits for a build read the pool and nothing else. Each of them is a stretch of reads that left
it waiting and then ends in one of four ways: with a read that satisfied it, with one that left it no
hope, with a read that failed for good, or as a timeout (`PoolWait`). A fifth one, too many polls to be
counted, takes longer than options allow a wait to take (`not_overflowed`).
-/

namespace BuildTrial

/-! ## Reads of a pool -/

namespace Event

/-- What a successful read of the pool with this name shows. -/
def poolRead? (name : String) : PlaneEvent → Option Pool
  | ⟨.call (.store .pool (.get read)), .returned (.ok v)⟩ =>
    if read = name then some v.object else none
  | _ => none

/-- A read of a pool that fails, and that no repetition can cure. -/
def isLost : PlaneEvent → Bool
  | ⟨.call (.store .pool (.get _)), .returned (.error e)⟩ => !e.isRetryable
  | ⟨.call (.store .pool (.get _)), .panicked _⟩ => true
  | _ => false

end Event

/-- What the successful reads of the pool with this name show, in order. -/
def poolReads (name : String) (t : PlaneTrace) : List Pool := t.filterMap (Event.poolRead? name)

/-- A successful read of a pool. -/
abbrev readPool (name : String) (v : Versioned Pool) : PlaneEvent :=
  ⟨.call (.store .pool (.get name)), .returned (.ok v)⟩

@[simp] theorem poolReads_append (name : String) (s t : PlaneTrace) :
    poolReads name (s ++ t) = poolReads name s ++ poolReads name t := List.filterMap_append

@[simp] theorem poolReads_readPool (name : String) (v : Versioned Pool) :
    poolReads name [readPool name v] = [v.object] := by
  simp [poolReads, readPool, Event.poolRead?]

theorem poolReads_of_isLost {name : String} {e : PlaneEvent} (h : e.isLost) :
    poolReads name [e] = [] := by
  unfold Event.isLost at h
  split at h
  · rfl
  · rfl
  · cases h

/-! ## One wait -/

open Phased

/-- A wait of the phases looks at the clock and then waits, but not beyond the deadline. -/
theorem runs_track_waitOn {ctx : ScenarioContext} {kind : Kind} {name description : String}
    {budget : Nat} {predicate : kind.Model → Verdict} {q q' : Progress} {t : PlaneTrace}
    {o : Outcome (Except Error (Versioned kind.Model))}
    (h : (track (ctx.waitOn kind name description budget predicate).run q).Runs t
      (.returned (o, q'))) :
    q' = q ∧ ∃ now s, t = ⟨.now, now⟩ :: s.map (Event.onPlane kind) ∧
      (waitFor name (WaitConfig.boundedBy
        { description, timeout := .ofSecs budget
          pollInterval := .ofSecs ctx.options.timeouts.pollInterval } ctx.deadline now)
        predicate).Runs s o := by
  unfold ScenarioContext.waitOn at h
  rw [track_now_bind] at h
  obtain ⟨now, t, rfl, hwait⟩ := Program.runs_ask_iff.mp h
  change (track (Phased.onStore kind _).run q).Runs t _ at hwait
  rw [track_onStore] at hwait
  rcases Program.runs_bind_iff.mp hwait with ⟨t₁, o₁, t₂, rfl, h₁, h₂⟩ | ⟨_, -, h₂⟩
  · obtain ⟨rfl, ho⟩ := Program.runs_done_iff.mp h₂
    cases ho
    obtain ⟨_, h₁, ho⟩ := Program.runs_attempt_iff.mp h₁
    cases ho
    obtain ⟨s, hs, rfl⟩ := runs_onStore_iff.mp h₁
    exact ⟨rfl, now, s, by rw [List.append_nil], hs⟩
  · cases h₂

theorem ticks_onPlane {kind : Kind} {s : StoreTrace kind.Model} {earliest : Duration} :
    Ticks earliest (s.map (Event.onPlane kind)) ↔ Ticks earliest s := by
  induction s generalizing earliest with
  | nil => exact Iff.rfl
  | cons e s ih =>
    obtain ⟨_ | _ | _ | _ | _, reply⟩ := e
    · exact ih
    · exact ih
    · exact and_congr_right fun _ => ih
    · exact ih
    · exact ih

/-- How a wait for a pool goes together with what it asked. -/
inductive PoolWait (name description : String) (predicate : Pool → Verdict) :
    PlaneTrace → Outcome (Except Error (Versioned Pool)) → Prop where
  | satisfied {t : PlaneTrace} {v : Versioned Pool}
      (waiting : ∀ pool ∈ poolReads name t, predicate pool = .notYet)
      (h : predicate v.object = .satisfied) :
      PoolWait name description predicate (t ++ [readPool name v]) (.returned (.ok v))
  | hopeless {t : PlaneTrace} {v : Versioned Pool} {reason : String}
      (waiting : ∀ pool ∈ poolReads name t, predicate pool = .notYet)
      (h : predicate v.object = .unrecoverable reason) :
      PoolWait name description predicate (t ++ [readPool name v])
        (.returned (.error (.unrecoverable description reason)))
  | lost {t : PlaneTrace} (waiting : ∀ pool ∈ poolReads name t, predicate pool = .notYet)
      (h : ∃ e ∈ t, Event.isLost e) (stop : Outcome Error) :
      PoolWait name description predicate t stop.stopping
  | timedOut {t : PlaneTrace} (waiting : ∀ pool ∈ poolReads name t, predicate pool = .notYet)
      (waited : Duration) :
      PoolWait name description predicate t
        (.returned (.error (.timeout description waited)))

/-- A look at the clock is no read. -/
theorem PoolWait.now {name description : String} {predicate : Pool → Verdict} {t : PlaneTrace}
    {o : Outcome (Except Error (Versioned Pool))} (h : PoolWait name description predicate t o)
    (instant : Instant) : PoolWait name description predicate (⟨.now, instant⟩ :: t) o := by
  cases h with
  | satisfied waiting h => exact .satisfied (t := ⟨.now, instant⟩ :: _) waiting h
  | hopeless waiting h => exact .hopeless (t := ⟨.now, instant⟩ :: _) waiting h
  | lost waiting h stop =>
    obtain ⟨e, hmem, he⟩ := h
    exact .lost (t := ⟨.now, instant⟩ :: _) waiting ⟨e, List.mem_cons_of_mem _ hmem, he⟩ stop
  | timedOut waiting waited => exact .timedOut (t := ⟨.now, instant⟩ :: _) waiting waited

/-- A wait that ends well has just read what satisfied it. -/
theorem PoolWait.exists_of_ok {name description : String} {predicate : Pool → Verdict}
    {t : PlaneTrace} {v : Versioned Pool}
    (h : PoolWait name description predicate t (.returned (.ok v))) :
    ∃ s, t = s ++ [readPool name v] ∧ (∀ pool ∈ poolReads name s, predicate pool = .notYet) ∧
      predicate v.object = .satisfied := by
  generalize ho : (Outcome.returned (.ok v) : Outcome (Except Error (Versioned Pool))) = o at h
  cases h with
  | satisfied waiting h =>
    cases ho
    exact ⟨_, rfl, waiting, h⟩
  | hopeless => cases ho
  | lost _ _ stop => exact absurd ho.symm (stop.stopping_ne_ok v)
  | timedOut => cases ho

/-- A wait that does not end well has given up: because of what it has read, or of what it could not
read, or for the time that it took. -/
theorem PoolWait.of_stopping {name description : String} {predicate : Pool → Verdict}
    {t : PlaneTrace} {stop : Outcome Error}
    (h : PoolWait name description predicate t stop.stopping) :
    (∃ s v reason, t = s ++ [readPool name v] ∧
        (∀ pool ∈ poolReads name s, predicate pool = .notYet) ∧
        predicate v.object = .unrecoverable reason ∧
        stop = .returned (.unrecoverable description reason)) ∨
      (∀ pool ∈ poolReads name t, predicate pool = .notYet) ∧
        ((∃ e ∈ t, Event.isLost e) ∨ ∃ description waited,
          stop = .returned (.timeout description waited)) := by
  generalize ho : (stop.stopping : Outcome (Except Error (Versioned Pool))) = o at h
  cases h with
  | @satisfied _ v => exact absurd ho (stop.stopping_ne_ok v)
  | hopeless waiting h =>
    exact .inl ⟨_, _, _, rfl, waiting, h, Outcome.stopping_inj (ho.trans rfl)⟩
  | lost waiting h stop' => exact .inr ⟨waiting, .inl h⟩
  | timedOut waiting waited =>
    exact .inr ⟨waiting, .inr ⟨_, waited, Outcome.stopping_inj (ho.trans rfl)⟩⟩

section

variable {name : String} {config : WaitConfig} {predicate : Pool → Verdict} {s : StoreTrace Pool}

/-- Whatever an undecided wait reads leaves it waiting. -/
theorem waiting_of_undecided (h : ∀ e ∈ s, Wait.Undecided name config predicate e) :
    ∀ pool ∈ poolReads name (s.map (Event.onPlane .pool)), predicate pool = .notYet := by
  intro pool hpool
  obtain ⟨e, he, hread⟩ := List.mem_filterMap.mp hpool
  obtain ⟨e, hmem, rfl⟩ := List.mem_map.mp he
  cases h e hmem with
  | get reply hdecision =>
    rcases reply with (_ | v) | _
    · cases hread
    · simp only [Event.onPlane, Event.poolRead?, if_pos, Option.some.injEq] at hread
      rw [← hread]
      exact Wait.decision_ok_eq_none_iff.mp hdecision
    · cases hread
  | now instant => cases hread
  | sleep span => cases hread

/-- A wait for a pool with this name ends in one of the four ways, unless its polls were not
counted. -/
theorem poolWait_of_ended {o : Outcome (Except Error (Versioned Pool))}
    (h : Wait.Ended name config predicate s o)
    (hcounted : o = .panicked countOverflow → ¬∀ e ∈ s, Wait.Undecided name config predicate e) :
    PoolWait name config.description predicate (s.map (Event.onPlane .pool)) o := by
  cases h with
  | @decided s idle reply o h =>
    have hwaiting := waiting_of_undecided idle
    rw [List.map_append]
    -- a read that fails shows no pool, so the wait has seen only what left it waiting
    have hlost : ∀ reply : Attempted (Versioned Pool),
        Event.isLost ⟨.call (.store .pool (.get name)), reply⟩ → ∀ stop : Outcome Error,
          PoolWait name config.description predicate (s.map (Event.onPlane .pool) ++
            [⟨.call (.store .pool (.get name)), reply⟩]) stop.stopping := by
      intro reply hreply stop
      refine .lost ?_ ⟨_, List.mem_append_right _ (List.mem_singleton_self _), hreply⟩ stop
      rw [poolReads_append, poolReads_of_isLost hreply, List.append_nil]
      exact hwaiting
    rcases reply with (e | v) | payload
    · simp only [Wait.decision, Option.ite_none_left_eq_some] at h
      obtain ⟨hfinal, ho⟩ := h
      rw [← Option.some.inj ho]
      exact hlost _ (by simpa [Event.isLost] using hfinal) (.returned e)
    · simp only [Wait.decision] at h
      cases hverdict : predicate v.object with
      | notYet => simp [hverdict] at h
      | satisfied =>
        rw [hverdict] at h
        rw [← Option.some.inj h]
        exact .satisfied hwaiting hverdict
      | unrecoverable reason =>
        rw [hverdict] at h
        rw [← Option.some.inj h]
        exact .hopeless hwaiting hverdict
    · rw [← Option.some.inj h]
      exact hlost _ rfl (.panicked payload)
  | timedOut idle waited => exact .timedOut (waiting_of_undecided idle) waited
  | overflowed idle => exact absurd idle (hcounted rfl)

end

/-- The budget of a wait is too short for more polls than can be counted, if time passes. -/
theorem not_overflowed {name : String} {config : WaitConfig} {predicate : Pool → Verdict}
    {s : StoreTrace Pool} {interval : Nat} {earliest : Duration} (hpos : 0 < interval)
    (hinterval : config.pollInterval = .ofSecs interval) (hmax : interval ≤ Timeouts.maxBudget)
    (hbudget : config.timeout ≤ .ofSecs Timeouts.maxBudget) (hticks : Ticks earliest s)
    (h : (waitFor name config predicate).Runs s (.panicked countOverflow)) :
    ¬∀ e ∈ s, Wait.Undecided name config predicate e := by
  intro hidle
  obtain ⟨start, s, rfl, hpolls⟩ := Program.runs_ask_iff.mp h
  have hshort : config.pollInterval ≤ World.longestSleep := by
    rw [hinterval, Duration.le_def]
    simp only [Timeouts.maxBudget] at hmax
    simp only [Duration.ofSecs, World.longestSleep, Duration.nanosPerSec]
    omega
  have hcount : (0 + countLimit) * _ ≤ _ := Wait.pollFrom_countdown hshort hpolls
    (fun e he => hidle e (List.mem_cons_of_mem _ he)) hticks.2 (by simp) (by simp)
  rw [hinterval] at hcount
  rw [Duration.le_def] at hbudget
  simp only [Duration.ofSecs, Duration.nanosPerSec, Timeouts.maxBudget, countLimit] at hcount hbudget
  have hsecond : (0 + (2 ^ 32 - 1)) * 1000000000 ≤ (0 + (2 ^ 32 - 1)) * (interval * 1000000000) :=
    Nat.mul_le_mul_left _ (Nat.le_mul_of_pos_left _ hpos)
  omega

/-- What a wait of the phases for a pool sees. -/
theorem poolWait_of_runs {ctx : ScenarioContext} {name description : String} {budget : Nat}
    {predicate : Pool → Verdict} {q q' : Progress} {t : PlaneTrace} {earliest : Duration}
    {o : Outcome (Except Error (Versioned Pool))} (hvalid : ctx.options.validate = .ok ())
    (hbudget : budget ≤ Timeouts.maxBudget) (hticks : Ticks earliest t)
    (h : (track (ctx.waitOn .pool name description budget predicate).run q).Runs t
      (.returned (o, q'))) :
    q' = q ∧ PoolWait name description predicate t o := by
  obtain ⟨rfl, now, s, rfl, hwait⟩ := runs_track_waitOn h
  obtain ⟨hpos, hbudgets⟩ := ScenarioOptions.budgets_of_validate hvalid
  have hinterval : ctx.options.timeouts.pollInterval ≤ Timeouts.maxBudget :=
    hbudgets ("timeouts.pollIntervalSecs", _) (by simp [Timeouts.budgets])
  refine ⟨rfl, .now (poolWait_of_ended (waitFor_ended hwait) ?_) now⟩
  rintro rfl
  refine not_overflowed hpos (by simp) hinterval ?_ (ticks_onPlane.mp hticks.2) hwait
  rw [Duration.le_def, WaitConfig.timeout_boundedBy, Duration.nanos_min]
  exact Nat.le_trans (Nat.min_le_left _ _) (Nat.mul_le_mul_right _ hbudget)

/-! ## The two waits for a build -/

namespace Predicates

theorem buildStarted_eq_notYet_iff {pool : Pool} : buildStarted pool = .notYet ↔ pool.state = .idle := by
  unfold buildStarted
  cases pool.state <;> simp

theorem buildStarted_ne_unrecoverable {pool : Pool} {reason : String} :
    buildStarted pool ≠ .unrecoverable reason := by
  unfold buildStarted
  cases pool.state <;> simp

/-- A build that is on its way: it goes on, or its image is not there yet. -/
def Unfinished (pool : Pool) : Prop :=
  pool.state = .building ∨ pool.state = .succeeded ∧ pool.image = none

/-- A build that is over and brings nothing: it failed, or the pool has forgotten about it. -/
def Broken (pool : Pool) : Prop := pool.state = .idle ∨ pool.state = .failed

theorem buildCompleted_eq_notYet_iff {pool : Pool} :
    buildCompleted pool = .notYet ↔ Unfinished pool := by
  unfold buildCompleted Unfinished
  cases pool.state <;> simp

theorem broken_of_buildCompleted {pool : Pool} {reason : String}
    (h : buildCompleted pool = .unrecoverable reason) : Broken pool := by
  unfold buildCompleted at h
  unfold Broken
  cases hstate : pool.state with
  | idle => exact .inl rfl
  | failed => exact .inr rfl
  | building => simp [hstate] at h
  | succeeded =>
    simp only [hstate] at h
    split at h <;> cases h

end Predicates

section

variable {ctx : ScenarioContext} {q q' : Progress} {t : PlaneTrace} {earliest : Duration}

/-- The wait for the build to start is the whole phase. -/
theorem poolWait_of_buildStart {o : Outcome (Except Error Unit)}
    (hvalid : ctx.options.validate = .ok ()) (hticks : Ticks earliest t)
    (h : (track (Phases.buildStart ctx).run q).Runs t (.returned (o, q'))) :
    (∃ v, PoolWait ctx.options.poolName "build start" Predicates.buildStarted t (.returned (.ok v)) ∧
        o = .returned (.ok ())) ∨
      ∃ stop : Outcome Error, PoolWait ctx.options.poolName "build start" Predicates.buildStarted t
        stop.stopping ∧ o = stop.stopping := by
  have hbudget : ctx.options.timeouts.buildStart ≤ Timeouts.maxBudget :=
    (ScenarioOptions.budgets_of_validate hvalid).2 ("timeouts.buildStartSecs", _)
      (by simp [Timeouts.budgets])
  rcases runs_track_bind h with ⟨t, v, q₁, t', rfl, hwait, hend⟩ | ⟨stop, hwait, rfl⟩
  · obtain ⟨rfl, ho⟩ := Program.runs_done_iff.mp hend
    cases ho
    rw [List.append_nil] at hticks ⊢
    exact .inl ⟨v, (poolWait_of_runs hvalid hbudget hticks hwait).2, rfl⟩
  · exact .inr ⟨stop, (poolWait_of_runs hvalid hbudget hticks hwait).2, rfl⟩

/-- The wait for the build to complete is the whole phase, which answers with the image that the wait
has seen. -/
theorem poolWait_of_buildCompletion {o : Outcome (Except Error String)}
    (hvalid : ctx.options.validate = .ok ()) (hticks : Ticks earliest t)
    (h : (track (Phases.buildCompletion ctx).run q).Runs t (.returned (o, q'))) :
    (∃ v image, PoolWait ctx.options.poolName "build completion" Predicates.buildCompleted t
        (.returned (.ok v)) ∧ v.object.image = some image ∧ o = .returned (.ok image)) ∨
      ∃ stop : Outcome Error, PoolWait ctx.options.poolName "build completion"
        Predicates.buildCompleted t stop.stopping ∧ o = stop.stopping := by
  have hbudget : ctx.options.timeouts.buildCompletion ≤ Timeouts.maxBudget :=
    (ScenarioOptions.budgets_of_validate hvalid).2 ("timeouts.buildCompletionSecs", _)
      (by simp [Timeouts.budgets])
  rcases runs_track_bind h with ⟨t, v, q₁, t', rfl, hwait, hend⟩ | ⟨stop, hwait, rfl⟩
  · have hpool : PoolWait ctx.options.poolName "build completion" Predicates.buildCompleted t
        (.returned (.ok v)) := (poolWait_of_runs hvalid hbudget hticks.of_append.1 hwait).2
    obtain ⟨-, -, -, hsatisfied⟩ := hpool.exists_of_ok
    obtain ⟨-, himage⟩ := Predicates.image_of_buildCompleted hsatisfied
    obtain ⟨image, himage⟩ := Option.isSome_iff_exists.mp himage
    simp only [himage] at hend
    obtain ⟨rfl, ho⟩ := Program.runs_done_iff.mp hend
    cases ho
    rw [List.append_nil]
    exact .inl ⟨v, image, hpool, himage, rfl⟩
  · exact .inr ⟨stop, (poolWait_of_runs hvalid hbudget hticks hwait).2, rfl⟩

end

end BuildTrial
