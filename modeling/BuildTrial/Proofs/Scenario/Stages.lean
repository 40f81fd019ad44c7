import BuildTrial.Proofs.Scenario.Blocks
import BuildTrial.Proofs.Scenario.Sequence

/-!
# The stages of a run

The phases of a run follow each other, and each starts from what those before it have found out. A
`Stage` is a phase with just that, so `Stage.program` is the phase on its own and `Stage.next` says what
its answer leads to. A run of all the phases is then a walk over stages: every stage but the last was
passed (`Reached`), and the last one ended as the phases did (`Stage.Ends`). `phases_walk` proves this,
and that what the phases say of themselves is true: at the end the tracked phase is that of the last
stage.
-/

namespace BuildTrial

inductive Stage where
  | validate (options : ScenarioOptions)
  | provision (ctx : ScenarioContext)
  | optIn (ctx : ScenarioContext)
  | buildStart (ctx : ScenarioContext)
  | buildCompletion (ctx : ScenarioContext)
  | rollout (ctx : ScenarioContext) (image : String) (rolloutOptions : RolloutOptions)

namespace Stage

def phase : Stage → Phase
  | .validate _ => .validate
  | .provision _ => .provision
  | .optIn _ => .optIn
  | .buildStart _ => .buildStart
  | .buildCompletion _ => .buildCompletion
  | .rollout .. => .rollout

/-- What the phase finds out. -/
@[reducible] def Answer : Stage → Type
  | .validate _ => ScenarioContext
  | .provision _ => Unit
  | .optIn _ => Unit
  | .buildStart _ => Unit
  | .buildCompletion _ => String
  | .rollout .. => RolloutOutcome

/-- The phase on its own. -/
def program : (s : Stage) → Phased s.Answer
  | .validate options => Phases.opening options
  | .provision ctx => Phases.provision ctx
  | .optIn ctx => Phases.optIn ctx
  | .buildStart ctx => Phases.buildStart ctx
  | .buildCompletion ctx => Phases.buildCompletion ctx
  | .rollout ctx image rolloutOptions => Phases.rollout ctx image rolloutOptions

/-- The stage that comes next, or what the phases bring if there is none. -/
def next : (s : Stage) → s.Answer → Stage ⊕ PhasesOutcome
  | .validate _, ctx => .inl (.provision ctx)
  | .provision ctx, _ => .inl (.optIn ctx)
  | .optIn ctx, _ => .inl (.buildStart ctx)
  | .buildStart ctx, _ => .inl (.buildCompletion ctx)
  | .buildCompletion ctx, image =>
    match ctx.options.rollout with
    | some rolloutOptions => .inl (.rollout ctx image rolloutOptions)
    | none => .inr { image, rollout := none }
  | .rollout _ image _, outcome => .inr { image, rollout := some outcome }

/-- How the end of the last stage is the end of the phases. -/
inductive Ends (s : Stage) :
    Outcome (Except Error s.Answer) → Outcome (Except Error PhasesOutcome) → Prop where
  | passed (a : s.Answer) (outcome : PhasesOutcome) (h : s.next a = .inr outcome) :
      Ends s (.returned (.ok a)) (.returned (.ok outcome))
  | failed (e : Error) : Ends s (.returned (.error e)) (.returned (.error e))
  | panicked (payload : Panic) : Ends s (.panicked payload) (.panicked payload)

end Stage

/-! ## The walk -/

/-- The stages before this one were passed, with this trace and this progress. -/
inductive Reached (options : ScenarioOptions) : Stage → Phased.Assertion where
  | start : Reached options (.validate options) [] {}
  | step {s s' : Stage} {t u : PlaneTrace} {q q' : Progress} {a : s.Answer}
      (before : Reached options s t q)
      (passed : (Phased.track s.program.run q).Runs u (.returned (.returned (.ok a), q')))
      (next : s.next a = .inl s') : Reached options s' (t ++ u) { q' with phase := s'.phase }

/-- The stage was reached and passed. -/
def Passed (options : ScenarioOptions) (s : Stage) (a : s.Answer) : Phased.Assertion := fun t q' =>
  ∃ before q during, t = before ++ during ∧ Reached options s before q ∧
    (Phased.track s.program.run q).Runs during (.returned (.returned (.ok a), q'))

/-- The phases ended, in whichever stage. -/
def Walked (options : ScenarioOptions) (ending : Outcome (Except Error PhasesOutcome)) :
    Phased.Assertion := fun t q' =>
  ∃ s before q during ending', t = before ++ during ∧ Reached options s before q ∧
    (Phased.track s.program.run q).Runs during (.returned (ending', q')) ∧ s.Ends ending' ending

open Phased Phases

variable {options : ScenarioOptions}

theorem leads_stage (s : Stage) :
    Leads (Reached options s) s.program (Passed options s) fun o => Walked options o.stopping := by
  intro t q hreached u o q' hr
  rcases o with (e | a) | payload
  · exact ⟨s, t, q, u, _, rfl, hreached, hr, .failed e⟩
  · exact ⟨t, q, u, rfl, hreached, hr⟩
  · exact ⟨s, t, q, u, _, rfl, hreached, hr, .panicked payload⟩

theorem leads_next {s : Stage} {a : s.Answer} {stop : Outcome Error → Assertion} (s' : Stage)
    (h : s.next a = .inl s') :
    Leads (Passed options s a) (Phased.enter s'.phase) (fun _ => Reached options s') stop := by
  refine leads_enter ?_
  rintro _ q' ⟨t, q, u, rfl, hreached, hpassed⟩
  exact hreached.step hpassed h

theorem walked_of_passed {s : Stage} {a : s.Answer} {outcome : PhasesOutcome}
    (h : s.next a = .inr outcome) {t : PlaneTrace} {q' : Progress}
    (hpassed : Passed options s a t q') : Walked options (.returned (.ok outcome)) t q' := by
  obtain ⟨t, q, u, rfl, hreached, hpassed⟩ := hpassed
  exact ⟨s, t, q, u, _, rfl, hreached, hpassed, .passed a outcome h⟩

theorem leads_walk :
    Leads (Reached options (.validate options)) (Phases.all options)
      (fun outcome => Walked options (.returned (.ok outcome)))
      fun o => Walked options o.stopping := by
  rw [all_eq]
  refine leads_bind (leads_stage (.validate options)) fun ctx => ?_
  refine leads_bind (leads_next (.provision ctx) rfl) fun _ => ?_
  refine leads_bind (leads_stage (.provision ctx)) fun _ => ?_
  refine leads_bind (leads_next (.optIn ctx) rfl) fun _ => ?_
  refine leads_bind (leads_stage (.optIn ctx)) fun _ => ?_
  refine leads_bind (leads_next (.buildStart ctx) rfl) fun _ => ?_
  refine leads_bind (leads_stage (.buildStart ctx)) fun _ => ?_
  refine leads_bind (leads_next (.buildCompletion ctx) rfl) fun _ => ?_
  refine leads_bind (leads_stage (.buildCompletion ctx)) fun image => ?_
  cases hrollout : ctx.options.rollout with
  | none =>
    refine leads_pure fun _ _ => walked_of_passed (s := .buildCompletion ctx) ?_
    simp only [Stage.next, hrollout]
  | some rolloutOptions =>
    refine leads_bind (leads_next (s := .buildCompletion ctx)
      (.rollout ctx image rolloutOptions) ?_) fun _ => ?_
    · simp only [Stage.next, hrollout]
    refine leads_bind (leads_stage (.rollout ctx image rolloutOptions)) fun outcome => ?_
    exact leads_pure fun _ _ => walked_of_passed rfl

/-! ## The tracked phase -/

/-- The phase that was entered last. -/
def In (phase : Phase) : Assertion := fun _ q => q.phase = phase

theorem Phases.Built.keepsPhase {ctx : ScenarioContext} {labels : List Kind} {calls : Nat}
    {α : Type} {x : Phased α} (h : Built ctx labels calls x) (phase : Phase) :
    Leads (In phase) x (fun _ => In phase) fun _ => In phase := by
  induction h with
  | pure a => exact leads_pure fun _ _ h => h
  | throw e => exact leads_throw fun _ _ h => h
  | bind _ _ ihfirst ihrest => exact leads_bind ihfirst ihrest
  | call call _ =>
    refine leads_call fun _ _ h reply => ?_
    rcases reply with (e | a) | payload <;> exact h
  | wait kind name description budget predicate =>
    refine leads_bind (m := fun _ => In phase) (leads_now fun _ _ h _ => h) fun now => ?_
    refine leads_onStore fun _ _ h _ o _ => ?_
    rcases o with (e | a) | payload <;> exact h
  | update kind name key =>
    refine leads_bind (m := fun _ => In phase) (leads_onStore fun _ _ h _ o _ => ?_) fun _ =>
      leads_pure fun _ _ h => h
    rcases o with (e | a) | payload <;> exact h
  | register undo => exact leads_register fun _ _ h => h
  | choose candidates => exact leads_choose (fun _ _ h _ => h) fun _ _ h _ _ _ _ => h
  | weaken _ _ ih => exact ih

theorem keepsPhase_opening (phase : Phase) :
    Leads (In phase) (opening options) (fun _ => In phase) fun _ => In phase := by
  cases hvalid : options.validate with
  | error e =>
    rw [opening_of_invalid hvalid]
    exact leads_throw fun _ _ h => h
  | ok _ =>
    rw [opening_of_valid hvalid]
    refine leads_bind (m := fun _ => In phase) (leads_now fun _ _ h _ => h) fun started => ?_
    generalize started.after? (.ofSecs options.timeouts.scenario) = deadline?
    cases deadline? with
    | none => exact leads_throw fun _ _ h => h
    | some deadline => exact leads_pure fun _ _ h => h

/-- No phase enters another one. -/
theorem Stage.keepsPhase (s : Stage) (phase : Phase) :
    Leads (In phase) s.program (fun _ => In phase) fun _ => In phase := by
  cases s with
  | validate options => exact keepsPhase_opening phase
  | provision ctx => exact built_provision.keepsPhase phase
  | optIn ctx => exact built_optIn.keepsPhase phase
  | buildStart ctx => exact built_buildStart.keepsPhase phase
  | buildCompletion ctx => exact built_buildCompletion.keepsPhase phase
  | rollout ctx image rolloutOptions =>
    show Leads _ (Phases.rollout ctx image rolloutOptions) _ _
    rw [rollout_eq]
    refine leads_bind ((built_moveIn image rolloutOptions).keepsPhase phase) fun node => ?_
    refine leads_bind (m := fun _ => In phase) (leads_call fun _ _ h reply => ?_) fun _ =>
      leads_pure fun _ _ h => h
    rcases reply with (e | a) | payload <;> exact h

theorem Reached.phase_eq {s : Stage} {t : PlaneTrace} {q : Progress}
    (h : Reached options s t q) : q.phase = s.phase := by
  cases h <;> rfl

/-- A run of the phases passes some stages and ends in the next one, and it knows which one this is. -/
theorem phases_walk {t : PlaneTrace} {ending : Outcome (Except Error PhasesOutcome)} {q' : Progress}
    (h : (track (Phases.all options).run {}).Runs t (.returned (ending, q'))) :
    ∃ s before q during ending', t = before ++ during ∧ Reached options s before q ∧
      (track s.program.run q).Runs during (.returned (ending', q')) ∧ s.Ends ending' ending ∧
      q'.phase = s.phase := by
  have hwalked : Walked options ending t q' := by
    have hend := leads_walk [] {} .start t ending q' h
    rcases ending with (e | outcome) | payload <;> exact hend
  obtain ⟨s, before, q, during, ending', rfl, hreached, hduring, hends⟩ := hwalked
  refine ⟨s, before, q, during, ending', rfl, hreached, hduring, hends, ?_⟩
  have hphase := s.keepsPhase s.phase before q hreached.phase_eq during ending' q' hduring
  rcases ending' with (e | a) | payload <;> exact hphase

end BuildTrial
