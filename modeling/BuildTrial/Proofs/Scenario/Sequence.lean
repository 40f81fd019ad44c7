import BuildTrial.Proofs.Scenario.Phased

/-!
# The phases, one after the other

`Phases.all` is taken apart at the two places where proofs about whole runs have to stop: before the
options are accepted and the deadline is known (`Phases.opening`) nothing has happened and the clock
has not moved, and from there on every phase works with the same context (`Phases.afterOpening`).
-/

namespace BuildTrial

theorem Phased.throw_bind {α β : Type} (e : Error) (f : α → Phased β) :
    (throw e : Phased α) >>= f = throw e := rfl

namespace Phases

/-- The context of a scenario with the given deadline, if there is one. -/
def contextOf (options : ScenarioOptions) : Option Instant → Phased ScenarioContext
  | some deadline => return { options, deadline }
  | none => throw (.invalid "timeouts.scenarioSecs" "scenario budget is too large")

/-- The check of the options, and the deadline that they set. -/
def opening (options : ScenarioOptions) : Phased ScenarioContext := do
  all.liftExcept options.validate
  let started ← Phased.now
  contextOf options (started.after? (.ofSecs options.timeouts.scenario))

/-- The phases that have a deadline, each entered before it begins. -/
def afterOpening (ctx : ScenarioContext) : Phased PhasesOutcome := do
  Phased.enter .provision
  provision ctx
  Phased.enter .optIn
  optIn ctx
  Phased.enter .buildStart
  buildStart ctx
  Phased.enter .buildCompletion
  let image ← buildCompletion ctx
  match ctx.options.rollout with
  | some rolloutOptions =>
    Phased.enter .rollout
    let outcome ← rollout ctx image rolloutOptions
    return { image, rollout := some outcome }
  | none => return { image, rollout := none }

theorem all_eq (options : ScenarioOptions) : all options = opening options >>= afterOpening := by
  unfold all opening
  rw [bind_assoc]
  refine bind_congr fun _ => ?_
  rw [bind_assoc]
  refine bind_congr fun started => ?_
  generalize started.after? (.ofSecs options.timeouts.scenario) = deadline?
  cases deadline? with
  | some deadline =>
    refine (pure_bind deadline _).trans (Eq.trans ?_ (pure_bind _ afterOpening).symm)
    iterate 8 refine bind_congr fun _ => ?_
    cases options.rollout <;> rfl
  | none => simp only [contextOf, Phased.throw_bind]

/-- Options that make no sense are all that the phases look at. -/
theorem opening_of_invalid {options : ScenarioOptions} {e : Error}
    (h : options.validate = .error e) : opening options = throw e := by
  unfold opening all.liftExcept
  rw [h]
  exact Phased.throw_bind e _

theorem opening_of_valid {options : ScenarioOptions} (h : options.validate = .ok ()) :
    opening options = Phased.now >>= fun started =>
      contextOf options (started.after? (.ofSecs options.timeouts.scenario)) := by
  unfold opening all.liftExcept
  rw [h]
  exact pure_bind () _

theorem all_of_invalid {options : ScenarioOptions} {e : Error}
    (h : options.validate = .error e) : all options = throw e := by
  rw [all_eq, opening_of_invalid h, Phased.throw_bind]

theorem all_of_valid {options : ScenarioOptions} (h : options.validate = .ok ()) :
    all options = Phased.now >>= fun started =>
      contextOf options (started.after? (.ofSecs options.timeouts.scenario)) >>= afterOpening := by
  rw [all_eq, opening_of_valid h, bind_assoc]

end Phases

end BuildTrial
