import BuildTrial.Proofs.Scenario.PoolWaits
import BuildTrial.Proofs.Scenario.Verdict

/-!
# The states of a pool that a run accepts

Two waits watch the build, one after the other, and the read that ends the first one is not handed on to
the second. What the pool shows to both decides how far the run comes: it gets beyond the build just if
the pool is idle for a while, then is not, then is on its way for a while, and then shows an image. As
soon as a pool that was seen to do something is idle again or has failed, that read is the last one.
-/

namespace BuildTrial

open Phased

variable {options : ScenarioOptions}

/-! ## The two waits of a run -/

/-- A run with this result got beyond the build. -/
def PastBuild : Except ScenarioFailure ScenarioOutcome → Prop
  | .ok _ => True
  | .error f => f.phase = .rollout ∨ f.phase = .cleanup

/-- The two waits for the build: what each of them asks, in which phase they end, and how. -/
inductive Watched (ctx : ScenarioContext) (q : Progress) :
    (start completion : PlaneTrace) → Phase → Outcome (Except Error String) → Prop where
  | stopped {start : PlaneTrace} {q' : Progress} (stop : Outcome Error)
      (h : (track (Phases.buildStart ctx).run q).Runs start (.returned (stop.stopping, q'))) :
      Watched ctx q start [] .buildStart stop.stopping
  | through {start completion : PlaneTrace} {q' q'' : Progress} {o : Outcome (Except Error String)}
      (first : (track (Phases.buildStart ctx).run q).Runs start
        (.returned (.returned (.ok ()), q')))
      (second : (track (Phases.buildCompletion ctx).run { q' with phase := .buildCompletion }).Runs
        completion (.returned (o, q''))) :
      Watched ctx q start completion .buildCompletion o

/-- What the end of the waits, in this phase, means for the result of the run. -/
inductive Settles (phase : Phase) :
    Outcome (Except Error String) → Except ScenarioFailure ScenarioOutcome → Prop where
  | past (image : String) {result : Except ScenarioFailure ScenarioOutcome} (h : PastBuild result) :
      Settles phase (.returned (.ok image)) result
  | stopped (stop : Outcome Error) (f : ScenarioFailure) (hphase : f.phase = phase)
      (hsource : ∀ e, stop = .returned e → f.source = e) :
      Settles phase stop.stopping (.error f)

theorem Settles.past_of_ok {phase : Phase} {image : String}
    {result : Except ScenarioFailure ScenarioOutcome}
    (h : Settles phase (.returned (.ok image)) result) : PastBuild result := by
  generalize ho : (Outcome.returned (.ok image) : Outcome (Except Error String)) = o at h
  cases h with
  | past _ h => exact h
  | stopped stop => exact absurd ho.symm (stop.stopping_ne_ok image)

theorem Settles.of_error {phase : Phase} {e : Error} {result : Except ScenarioFailure ScenarioOutcome}
    (h : Settles phase (.returned (.error e)) result) :
    ∃ f, result = .error f ∧ f.phase = phase ∧ f.source = e := by
  generalize ho : (Outcome.returned (.error e) : Outcome (Except Error String)) = o at h
  cases h with
  | past => cases ho
  | stopped stop f hphase hsource =>
    have hstop : stop = .returned e := Outcome.stopping_inj ho.symm
    exact ⟨f, rfl, hphase, hsource e hstop⟩

/-- Only a wait that ends well gets a run beyond the build. -/
theorem Settles.ending_of_past {ctx : ScenarioContext} {q : Progress} {start completion : PlaneTrace}
    {phase : Phase} {ending : Outcome (Except Error String)}
    {result : Except ScenarioFailure ScenarioOutcome} (h : Settles phase ending result)
    (hwatched : Watched ctx q start completion phase ending) (hpast : PastBuild result) :
    ∃ image, ending = .returned (.ok image) := by
  have hphase : phase = .buildStart ∨ phase = .buildCompletion := by
    cases hwatched with
    | stopped => exact .inl rfl
    | through => exact .inr rfl
  cases h with
  | past image => exact ⟨image, rfl⟩
  | stopped stop f hf =>
    subst hf
    rcases hphase with hf | hf <;> rcases hpast with hp | hp <;> cases hf.symm.trans hp

/-- The last stage of a run was passed, and then the run got beyond the build, or it is where the run
failed. -/
theorem Judged.past_or_stopped {s : Stage} {cleanup : CleanupReport}
    {ending : Outcome (Except Error s.Answer)} {result : Except ScenarioFailure ScenarioOutcome}
    (h : Judged options s cleanup ending result) :
    (∃ a outcome, ending = .returned (.ok a) ∧ s.next a = .inr outcome ∧ PastBuild result) ∨
      ∃ (stop : Outcome Error) (f : ScenarioFailure), ending = stop.stopping ∧ result = .error f ∧
        f.phase = s.phase ∧ ∀ e, stop = .returned e → f.source = e := by
  cases h with
  | passed a outcome last clean => exact .inl ⟨a, outcome, rfl, last, trivial⟩
  | leftBehind a outcome last unclean => exact .inl ⟨a, outcome, rfl, last, .inr rfl⟩
  | failed e =>
    refine .inr ⟨.returned e, _, rfl, rfl, rfl, ?_⟩
    rintro _ ⟨⟩
    rfl
  | panicked payload => exact .inr ⟨.panicked payload, _, rfl, rfl, rfl, by simp⟩

/-- Beyond the first stage the options are known to be valid. -/
theorem Reached.valid {s : Stage} {t : PlaneTrace} {q : Progress} (h : Reached options s t q)
    (hs : s.phase ≠ .validate) : options.validate = .ok () := by
  induction h with
  | start => exact absurd rfl hs
  | @step s _ _ _ _ _ _ before passed next ih =>
    cases s with
    | validate options' =>
      obtain rfl : options' = options := before.registered.1
      cases hvalid : options'.validate with
      | ok => rfl
      | error e =>
        change (track (Phases.opening options').run _).Runs _ _ at passed
        rw [Phases.opening_of_invalid hvalid] at passed
        cases (Program.runs_done_iff.mp passed).2
    | _ => exact ih (by simp [Stage.phase])

/-- Before the build can complete it has started. -/
theorem Reached.of_buildCompletion {ctx : ScenarioContext} {t : PlaneTrace} {q : Progress}
    (h : Reached options (.buildCompletion ctx) t q) :
    ∃ before q₀ start q₁, t = before ++ start ∧ Reached options (.buildStart ctx) before q₀ ∧
      (track (Phases.buildStart ctx).run q₀).Runs start (.returned (.returned (.ok ()), q₁)) ∧
      q = { q₁ with phase := .buildCompletion } := by
  cases h with
  | @step s _ before start q₀ q₁ a hreached passed next =>
    cases s with
    | buildStart _ =>
      cases next
      exact ⟨before, q₀, start, q₁, rfl, hreached, passed, rfl⟩
    | buildCompletion _ =>
      simp only [Stage.next] at next
      split at next <;> cases next
    | _ => cases next

/-- Before anything is rolled out the build has completed. -/
theorem Reached.of_rollout {ctx : ScenarioContext} {image : String} {rolloutOptions : RolloutOptions}
    {t : PlaneTrace} {q : Progress} (h : Reached options (.rollout ctx image rolloutOptions) t q) :
    ∃ before q₀ completion q₁, t = before ++ completion ∧
      Reached options (.buildCompletion ctx) before q₀ ∧
      (track (Phases.buildCompletion ctx).run q₀).Runs completion
        (.returned (.returned (.ok image), q₁)) := by
  cases h with
  | @step s _ before completion q₀ q₁ a hreached passed next =>
    cases s with
    | buildCompletion _ =>
      simp only [Stage.next] at next
      split at next
      · cases next
        exact ⟨before, q₀, completion, q₁, rfl, hreached, passed⟩
      · cases next
    | _ => cases next

/-- A run ends before the waits for the build, or it has them, and they settle how it goes on. -/
theorem watched_of_runs {t : PlaneTrace} {o : Outcome (Except ScenarioFailure ScenarioOutcome)}
    (h : (Scenario.run options).Runs t o) :
    ∃ result, o = .returned result ∧
      ((∃ f, result = .error f ∧ f.phase ∈ [Phase.validate, .provision, .optIn]) ∨
        ∃ ctx before q start completion after phase ending,
          t = before ++ (start ++ completion) ++ after ∧ Reached options (.buildStart ctx) before q ∧
          Watched ctx q start completion phase ending ∧ Settles phase ending result) := by
  obtain ⟨phases, ending, q', teardown, cleanup, registry, rfl, hphases, -, rfl⟩ :=
    Scenario.exists_of_runs_run h
  obtain ⟨s, before, q, during, ending', rfl, hreached, hduring, hends, hphase⟩ :=
    phases_walk hphases
  have hjudged : Judged options s cleanup ending' _ := Scenario.judged_conclude hends cleanup
  rw [← hphase] at hjudged
  refine ⟨_, rfl, ?_⟩
  generalize Scenario.conclude _ _ _ _ = result at hjudged
  have hcases := hjudged.past_or_stopped
  -- the stage in which the phases stopped tells how far the build was watched
  cases s with
  | buildStart ctx =>
    obtain ⟨_, _, -, hnext, -⟩ | ⟨stop, f, rfl, rfl, hf, hsource⟩ := hcases
    · cases hnext
    · refine .inr ⟨ctx, before, q, during, [], teardown, _, _, ?_, hreached, .stopped stop hduring,
        .stopped stop f hf hsource⟩
      rw [List.append_nil]
  | buildCompletion ctx =>
    obtain ⟨before, q₀, start, q₁, rfl, hstarted, hstart, rfl⟩ := hreached.of_buildCompletion
    refine .inr ⟨ctx, before, q₀, start, during, teardown, _, ending', ?_, hstarted,
      .through hstart hduring, ?_⟩
    · rw [List.append_assoc before]
    · obtain ⟨image, _, rfl, -, hpast⟩ | ⟨stop, f, rfl, rfl, hf, hsource⟩ := hcases
      · exact .past image hpast
      · exact .stopped stop f hf hsource
  | rollout ctx image rolloutOptions =>
    obtain ⟨before, q₁, completion, q₂, rfl, hcompleted, hcompletion⟩ := hreached.of_rollout
    obtain ⟨before, q₀, start, q₁, rfl, hstarted, hstart, rfl⟩ := hcompleted.of_buildCompletion
    refine .inr ⟨ctx, before, q₀, start, completion, during ++ teardown, _, _, ?_, hstarted,
      .through hstart hcompletion, .past image ?_⟩
    · simp only [List.append_assoc]
    · obtain ⟨_, _, -, -, hpast⟩ | ⟨_, f, -, rfl, hf, -⟩ := hcases
      · exact hpast
      · exact .inl hf
  | _ =>
    obtain ⟨_, _, -, hnext, -⟩ | ⟨_, f, -, rfl, hf, -⟩ := hcases
    · cases hnext
    · exact .inl ⟨f, rfl, by simp [hf, Stage.phase]⟩

/-! ## Histories -/

/-- The states of a build that has begun and is not over: the pool is idle for a while, then the first
time that it is not, and then the build is on its way. -/
structure Underway (idles : List Pool) (first : Pool) (unfinished : List Pool) : Prop where
  idles : ∀ pool ∈ idles, pool.state = .idle
  first : first.state ≠ .idle
  unfinished : ∀ pool ∈ unfinished, Predicates.Unfinished pool

/-- A build that is over and has brought an image. -/
def Finished (pool : Pool) : Prop := pool.state = .succeeded ∧ pool.image.isSome

theorem Finished.not_unfinished {pool : Pool} (h : Finished pool) : ¬Predicates.Unfinished pool := by
  rintro (hstate | ⟨-, himage⟩)
  · cases h.1.symm.trans hstate
  · rw [Finished, himage] at h
    cases h.2

theorem not_finished_of_broken {pool : Pool} (h : Predicates.Broken pool) : ¬Finished pool := by
  rintro ⟨hstate, -⟩
  rcases h with hbroken | hbroken <;> cases hbroken.symm.trans hstate

theorem not_unfinished_of_broken {pool : Pool} (h : Predicates.Broken pool) :
    ¬Predicates.Unfinished pool := by
  rintro (hstate | ⟨hstate, -⟩) <;> rcases h with hbroken | hbroken <;>
    cases hbroken.symm.trans hstate

/-- Of two sequences that begin alike, what comes before the first that is not so is the same. -/
theorem first_of_isPrefix {α : Type} {P : α → Prop} {a b : α} {r r' : List α} (ha : ¬P a)
    (hb : ¬P b) {l l' : List α} (hl : ∀ x ∈ l, P x) (hl' : ∀ x ∈ l', P x)
    (h : l ++ a :: r <+: l' ++ b :: r') : l = l' ∧ a = b ∧ r <+: r' := by
  induction l generalizing l' with
  | nil =>
    cases l' with
    | nil =>
      obtain ⟨rfl, hrest⟩ := List.cons_prefix_cons.mp h
      exact ⟨rfl, rfl, hrest⟩
    | cons c l' =>
      obtain ⟨rfl, -⟩ := List.cons_prefix_cons.mp h
      exact absurd (hl' a List.mem_cons_self) ha
  | cons c l ih =>
    cases l' with
    | nil =>
      obtain ⟨rfl, -⟩ := List.cons_prefix_cons.mp h
      exact absurd (hl c List.mem_cons_self) hb
    | cons c' l' =>
      obtain ⟨rfl, hrest⟩ := List.cons_prefix_cons.mp h
      obtain ⟨rfl, rfl, hlater⟩ := ih (fun x hx => hl x (List.mem_cons_of_mem _ hx))
        (fun x hx => hl' x (List.mem_cons_of_mem _ hx)) hrest
      exact ⟨rfl, rfl, hlater⟩

/-- A history can be read in one way only. -/
theorem Underway.eq_of_isPrefix {idles idles' unfinished unfinished' rest rest' : List Pool}
    {first first' last last' : Pool} (h : Underway idles first unfinished)
    (h' : Underway idles' first' unfinished') (hlast : ¬Predicates.Unfinished last)
    (hlast' : ¬Predicates.Unfinished last')
    (hle : idles ++ first :: (unfinished ++ last :: rest) <+:
      idles' ++ first' :: (unfinished' ++ last' :: rest')) :
    idles = idles' ∧ first = first' ∧ unfinished = unfinished' ∧ last = last' ∧ rest <+: rest' := by
  obtain ⟨hidles, hfirst, hrest⟩ := first_of_isPrefix (P := fun pool => pool.state = .idle) h.first
    h'.first h.idles h'.idles hle
  exact ⟨hidles, hfirst, first_of_isPrefix hlast hlast' h.unfinished h'.unfinished hrest⟩

/-- A wait was given up: a read failed for good, or the time was up. -/
def GaveUp (t : PlaneTrace) (stop : Outcome Error) : Prop :=
  (∃ e ∈ t, Event.isLost e) ∨ ∃ description waited, stop = .returned (.timeout description waited)

/-- What the two waits for the build see of the pool, and where that leads. -/
inductive Seen (name : String) :
    (start completion : PlaneTrace) → Phase → Outcome (Except Error String) → Prop where
  | idle {start : PlaneTrace} (idles : ∀ pool ∈ poolReads name start, pool.state = .idle)
      (stop : Outcome Error) (gaveUp : GaveUp start stop) :
      Seen name start [] .buildStart stop.stopping
  | underway {start completion : PlaneTrace} {first : Versioned Pool}
      (h : Underway (poolReads name start) first.object (poolReads name completion))
      (stop : Outcome Error) (gaveUp : GaveUp completion stop) :
      Seen name (start ++ [readPool name first]) completion .buildCompletion stop.stopping
  | finished {start completion : PlaneTrace} {first last : Versioned Pool}
      (h : Underway (poolReads name start) first.object (poolReads name completion))
      (finished : Finished last.object) (image : String) :
      Seen name (start ++ [readPool name first]) (completion ++ [readPool name last])
        .buildCompletion (.returned (.ok image))
  | broken {start completion : PlaneTrace} {first last : Versioned Pool}
      (h : Underway (poolReads name start) first.object (poolReads name completion))
      (reason : String) (broken : Predicates.buildCompleted last.object = .unrecoverable reason) :
      Seen name (start ++ [readPool name first]) (completion ++ [readPool name last])
        .buildCompletion (.returned (.error (.unrecoverable "build completion" reason)))

theorem Watched.seen {ctx : ScenarioContext} {q : Progress} {start completion : PlaneTrace}
    {phase : Phase} {ending : Outcome (Except Error String)} {earliest : Duration}
    (h : Watched ctx q start completion phase ending) (hvalid : ctx.options.validate = .ok ())
    (hticks : Ticks earliest (start ++ completion)) :
    Seen ctx.options.poolName start completion phase ending := by
  obtain ⟨hstart, _, hcompletion⟩ := hticks.of_append
  have hidle : ∀ {s : PlaneTrace},
      (∀ pool ∈ poolReads ctx.options.poolName s, Predicates.buildStarted pool = .notYet) →
        ∀ pool ∈ poolReads ctx.options.poolName s, pool.state = .idle := fun hwaiting pool hpool =>
    Predicates.buildStarted_eq_notYet_iff.mp (hwaiting pool hpool)
  cases h with
  | stopped stop hruns =>
    obtain ⟨v, -, ho⟩ | ⟨stop', hwait, ho⟩ := poolWait_of_buildStart hvalid hstart hruns
    · exact absurd ho (stop.stopping_ne_ok ())
    · -- no state of a pool rules a build out before it starts
      obtain rfl := Outcome.stopping_inj ho
      obtain ⟨_, _, reason, -, -, hhopeless, -⟩ | ⟨hwaiting, hgaveUp⟩ := hwait.of_stopping
      · exact absurd hhopeless Predicates.buildStarted_ne_unrecoverable
      · exact .idle (hidle hwaiting) stop hgaveUp
  | through hfirst hsecond =>
    obtain ⟨first, hwait, -⟩ | ⟨stop, -, ho⟩ := poolWait_of_buildStart hvalid hstart hfirst
    · obtain ⟨start, rfl, hwaiting, hstarted⟩ := hwait.exists_of_ok
      have hfirst : first.object.state ≠ .idle := fun hstate => by
        cases (Predicates.buildStarted_eq_notYet_iff.mpr hstate).symm.trans hstarted
      have hunderway : ∀ {s : PlaneTrace},
          (∀ pool ∈ poolReads ctx.options.poolName s, Predicates.buildCompleted pool = .notYet) →
            Underway (poolReads ctx.options.poolName start) first.object
              (poolReads ctx.options.poolName s) := fun hunfinished =>
        ⟨hidle hwaiting, hfirst, fun pool hpool =>
          Predicates.buildCompleted_eq_notYet_iff.mp (hunfinished pool hpool)⟩
      obtain ⟨last, image, hwait, -, rfl⟩ | ⟨stop, hwait, rfl⟩ :=
        poolWait_of_buildCompletion hvalid hcompletion hsecond
      · obtain ⟨completion, rfl, hunfinished, hcompleted⟩ := hwait.exists_of_ok
        exact .finished (hunderway hunfinished) (Predicates.image_of_buildCompleted hcompleted) image
      · obtain ⟨completion, last, reason, rfl, hunfinished, hbroken, rfl⟩ | ⟨hunfinished, hgaveUp⟩ :=
          hwait.of_stopping
        · exact .broken (hunderway hunfinished) reason hbroken
        · exact .underway (hunderway hunfinished) stop hgaveUp
    · exact absurd ho.symm (stop.stopping_ne_ok ())

/-! ## What the reads tell -/

namespace Seen

variable {name : String} {start completion : PlaneTrace} {phase : Phase}
  {ending : Outcome (Except Error String)}

theorem poolReads_through {s s' : PlaneTrace} {first last : Versioned Pool} :
    poolReads name (s ++ [readPool name first] ++ (s' ++ [readPool name last])) =
      poolReads name s ++ first.object :: (poolReads name s' ++ [last.object]) := by
  rw [poolReads_append, poolReads_append, poolReads_append, poolReads_readPool, poolReads_readPool,
    List.append_assoc, List.singleton_append]

/-- Waits that end well have seen the build through. -/
theorem exists_of_ok {image : String}
    (h : Seen name start completion phase (.returned (.ok image))) :
    ∃ s s' first last, start = s ++ [readPool name first] ∧
      completion = s' ++ [readPool name last] ∧
      Underway (poolReads name s) first.object (poolReads name s') ∧ Finished last.object := by
  generalize ho : (Outcome.returned (.ok image) : Outcome (Except Error String)) = o at h
  cases h with
  | idle _ stop => exact absurd ho.symm (stop.stopping_ne_ok image)
  | underway _ stop => exact absurd ho.symm (stop.stopping_ne_ok image)
  | finished h finished => exact ⟨_, _, _, _, rfl, rfl, h, finished⟩
  | broken => cases ho

/-- A build that is seen through to its image ends the waits well. -/
theorem ends_of_finished (h : Seen name start completion phase ending)
    (htime : ∀ description waited, ending ≠ .returned (.error (.timeout description waited)))
    (hreads : ∀ e ∈ start ++ completion, ¬Event.isLost e) {idles unfinished rest : List Pool}
    {first last : Pool} (hunderway : Underway idles first unfinished) (hfinished : Finished last)
    (hhistory : poolReads name (start ++ completion) <+:
      idles ++ first :: (unfinished ++ last :: rest)) :
    (∃ image, ending = .returned (.ok image)) ∧
      poolReads name (start ++ completion) = idles ++ first :: (unfinished ++ [last]) := by
  have hgaveUp : ∀ {t : PlaneTrace} {stop : Outcome Error}, (∀ e ∈ t, e ∈ start ++ completion) →
      GaveUp t stop → ending ≠ stop.stopping := by
    rintro t stop hsub (⟨e, hmem, he⟩ | ⟨description, waited, rfl⟩) hending
    · exact hreads e (hsub e hmem) he
    · exact htime description waited hending
  cases h with
  | idle idles stop gaveUp =>
    exact absurd rfl (hgaveUp (fun e he => List.mem_append_left _ he) gaveUp)
  | underway h stop gaveUp =>
    exact absurd rfl (hgaveUp (fun e he => List.mem_append_right _ he) gaveUp)
  | finished h finished image =>
    rw [poolReads_through] at hhistory ⊢
    obtain ⟨rfl, rfl, rfl, rfl, -⟩ := h.eq_of_isPrefix hunderway finished.not_unfinished
      hfinished.not_unfinished hhistory
    exact ⟨⟨image, rfl⟩, rfl⟩
  | broken h reason broken =>
    rw [poolReads_through] at hhistory
    have hbroken := Predicates.broken_of_buildCompleted broken
    obtain ⟨-, -, -, rfl, -⟩ := h.eq_of_isPrefix hunderway (not_unfinished_of_broken hbroken)
      hfinished.not_unfinished hhistory
    exact absurd hfinished (not_finished_of_broken hbroken)

/-- A build that is seen broken after it was seen to begin ends the waits at once. -/
theorem ends_of_broken (h : Seen name start completion phase ending)
    {idles unfinished later : List Pool} {first broken : Pool}
    (hunderway : Underway idles first unfinished) (hbroken : Predicates.Broken broken)
    (hhistory : poolReads name (start ++ completion) =
      idles ++ first :: (unfinished ++ broken :: later)) :
    later = [] ∧ phase = .buildCompletion ∧ (∃ s v, v.object = broken ∧
      start ++ completion = s ++ [readPool name v]) ∧
      ∃ reason, Predicates.buildCompleted broken = .unrecoverable reason ∧
        ending = .returned (.error (.unrecoverable "build completion" reason)) := by
  cases h with
  | idle idles' stop gaveUp =>
    rw [List.append_nil] at hhistory
    exact absurd (idles' first (by simp [hhistory])) hunderway.first
  | underway h stop gaveUp =>
    -- what comes after the first read that is not idle is all on its way
    rw [List.append_assoc, poolReads_append, poolReads_append, poolReads_readPool,
      List.singleton_append] at hhistory
    obtain ⟨rfl, rfl, -⟩ := first_of_isPrefix (P := fun pool : Pool => pool.state = .idle) h.first
      hunderway.first h.idles hunderway.idles ⟨[], (List.append_nil _).trans hhistory⟩
    have hlater := List.cons.inj (List.append_cancel_left hhistory)
    exact absurd (h.unfinished broken (by rw [hlater.2]; simp)) (not_unfinished_of_broken hbroken)
  | finished h finished image =>
    rw [poolReads_through] at hhistory
    obtain ⟨-, -, -, rfl, -⟩ := h.eq_of_isPrefix hunderway finished.not_unfinished
      (not_unfinished_of_broken hbroken) ⟨[], (List.append_nil _).trans hhistory⟩
    exact absurd finished (not_finished_of_broken hbroken)
  | @broken start completion first' last h reason hreason =>
    rw [poolReads_through] at hhistory
    have hlast := not_unfinished_of_broken (Predicates.broken_of_buildCompleted hreason)
    obtain ⟨-, -, -, rfl, hlater⟩ := hunderway.eq_of_isPrefix h (not_unfinished_of_broken hbroken)
      hlast ⟨[], (List.append_nil _).trans hhistory.symm⟩
    refine ⟨List.prefix_nil.mp hlater, rfl, ?_, reason, hreason, rfl⟩
    exact ⟨start ++ [readPool name first'] ++ completion, last, rfl, by simp⟩

end Seen

namespace Scenario

/-- Every run ends before it waits for the build, or its two waits for it decide how far it comes. If it
gets beyond the build, its successful reads have shown an idle pool for a while, then one that was not,
which ended the first wait, then a build on its way, and last a build with an image. If the time is not
up and no read fails for good, such a history gets a run beyond the build. And as soon as a pool that was
not idle before is idle or has failed, that read is the last one and the run fails with it. -/
theorem run_build_history {σ : Type} (options : ScenarioOptions)
    (answer : (call : PlaneCall) → σ → Attempted call.Answer × σ) (w : World σ) :
    ∃ result, ((run options).runIn (I := planeInterface) answer w).1 = .returned result ∧
      ((∃ f, result = .error f ∧ f.phase ∈ [Phase.validate, .provision, .optIn]) ∨
        ∃ ctx before q start completion after phase ending,
          (run options).trace (World.reply (I := planeInterface) answer) w =
            before ++ (start ++ completion) ++ after ∧
          Reached options (.buildStart ctx) before q ∧
          Watched ctx q start completion phase ending ∧
          (PastBuild result → ∃ s s' first last, start = s ++ [readPool options.poolName first] ∧
            completion = s' ++ [readPool options.poolName last] ∧
            Underway (poolReads options.poolName s) first.object (poolReads options.poolName s') ∧
            Finished last.object) ∧
          ((∀ description waited, ending ≠ .returned (.error (.timeout description waited))) →
            (∀ e ∈ start ++ completion, ¬Event.isLost e) →
            ∀ idles first unfinished last rest, Underway idles first unfinished → Finished last →
              poolReads options.poolName (start ++ completion) <+:
                idles ++ first :: (unfinished ++ last :: rest) →
              PastBuild result ∧ poolReads options.poolName (start ++ completion) =
                idles ++ first :: (unfinished ++ [last])) ∧
          ∀ idles first unfinished broken later, Underway idles first unfinished →
            Predicates.Broken broken →
            poolReads options.poolName (start ++ completion) =
              idles ++ first :: (unfinished ++ broken :: later) →
            later = [] ∧
            (∃ s v, v.object = broken ∧ start ++ completion = s ++ [readPool options.poolName v]) ∧
            ∃ f reason, result = .error f ∧ f.phase = .buildCompletion ∧
              Predicates.buildCompleted broken = .unrecoverable reason ∧
              f.source = .unrecoverable "build completion" reason) := by
  have hruns := Program.runs_trace (World.reply (I := planeInterface) answer) (run options) w
  have hticks := ticks_trace (I := planeInterface) answer (run options) w
  obtain ⟨result, hresult, hearly | ⟨ctx, before, q, start, completion, after, phase, ending, htrace,
    hreached, hwatched, hsettles⟩⟩ := watched_of_runs hruns
  · exact ⟨result, hresult, .inl hearly⟩
  · have hoptions : ctx.options = options := hreached.registered.1
    have hvalid : ctx.options.validate = .ok () :=
      (congrArg _ hoptions).trans (hreached.valid (by simp [Stage.phase]))
    rw [htrace] at hticks
    obtain ⟨_, hticks⟩ := hticks.of_append.1.of_append.2
    have hseen := hwatched.seen hvalid hticks
    rw [hoptions] at hseen
    refine ⟨result, hresult, .inr ⟨ctx, before, q, start, completion, after, phase, ending, htrace,
      hreached, hwatched, fun hpast => ?_, fun htime hreads idles first unfinished last rest hunderway
      hfinished hhistory => ?_, fun idles first unfinished broken later hunderway hbroken hhistory =>
      ?_⟩⟩
    · obtain ⟨image, rfl⟩ := hsettles.ending_of_past hwatched hpast
      exact hseen.exists_of_ok
    · obtain ⟨⟨image, rfl⟩, hreads⟩ :=
        hseen.ends_of_finished htime hreads hunderway hfinished hhistory
      exact ⟨hsettles.past_of_ok, hreads⟩
    · obtain ⟨rfl, rfl, hlast, reason, hreason, rfl⟩ :=
        hseen.ends_of_broken hunderway hbroken hhistory
      obtain ⟨f, rfl, hphase, hsource⟩ := hsettles.of_error
      exact ⟨rfl, hlast, f, reason, rfl, hphase, hreason, hsource⟩

end Scenario

end BuildTrial
