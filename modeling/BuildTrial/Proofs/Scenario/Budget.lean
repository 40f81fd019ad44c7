import BuildTrial.Proofs.Scenario.Cost
import BuildTrial.Proofs.Scenario.Demands

/-!
# A run ends within its budget

Options that are accepted have a poll interval of at least a second, and then a run ends by the deadline
that its budget sets or sixteen pauses later, 240 ms at most, with its teardown included
(`run_within_budget`). It does so after a number of calls that depends on the budget alone, far below
what the counters of its loops can count. Options that are refused cost nothing.
-/

namespace BuildTrial

open Program

variable {σ : Type} {answer : (call : PlaneCall) → σ → Attempted call.Answer × σ}

/-! ## What valid options promise -/

/-- Valid options poll at most once a second, and no budget of theirs is longer than a week. -/
theorem ScenarioOptions.budgets_of_validate {options : ScenarioOptions} {a : Unit}
    (h : options.validate = .ok a) : 0 < options.timeouts.pollInterval ∧
      ∀ budget ∈ options.timeouts.budgets, budget.2 ≤ Timeouts.maxBudget := by
  have hmet := validate_eq_ok_iff.mp h
  constructor
  · exact hmet _ (.tail _ (.tail _ (.head _)))
  · intro budget hbudget
    exact hmet (.ofBudget budget) (mem_demands_of_mem_budgets hbudget)

/-- Valid options poll at most once a second and have a budget of a week at most. -/
theorem ScenarioOptions.timeouts_of_validate {options : ScenarioOptions} {a : Unit}
    (h : options.validate = .ok a) :
    0 < options.timeouts.pollInterval ∧ options.timeouts.scenario ≤ Timeouts.maxBudget := by
  obtain ⟨hinterval, hbudgets⟩ := budgets_of_validate h
  refine ⟨hinterval, hbudgets ("timeouts.scenarioSecs", options.timeouts.scenario) ?_⟩
  simp [Timeouts.budgets]

/-- Options are refused for one of their fields. -/
theorem ScenarioOptions.invalid_of_validate {options : ScenarioOptions} {e : Error}
    (h : options.validate = .error e) : ∃ field message, e = .invalid field message := by
  obtain ⟨_, demand, _, -, -, -, rfl⟩ := validate_eq_error_iff.mp h
  exact ⟨demand.field, demand.message, rfl⟩

/-! ## The phases and the teardown -/

theorem spends_phases {options : ScenarioOptions} (hvalid : options.validate = .ok ())
    (w : World σ) :
    Spends answer (w.clock + 1000 * options.timeouts.scenario) 8 34
      (Phased.track (Phases.all options).run {}) w := by
  rw [Phases.all_of_valid hvalid, Phased.track_now_bind]
  refine .now ?_
  cases hdeadline : w.now.after? (.ofSecs options.timeouts.scenario) with
  | none =>
    rw [Phases.contextOf, Phased.throw_bind]
    exact (Phased.frugal_throw _).mono (Nat.zero_le _) (Nat.zero_le _) {} w
  | some deadline =>
    rw [Phases.contextOf, pure_bind]
    refine Phases.frugal_afterOpening ⟨?_, ?_⟩ {} w
    · exact Instant.eq_ofMillis_of_after? hdeadline
    · exact (ScenarioOptions.timeouts_of_validate hvalid).1

theorem Undo.frugal_deleteIfPresent {deadline : Nat} (kind : Kind) (name : String) :
    Frugal answer deadline 0 1 (deleteIfPresent kind name) :=
  frugal_call fun _ => frugal_ofOutcome_bind fun _ => frugal_done _

theorem Undo.frugal_unlabel {deadline : Nat} (kind : Kind) [Labelled kind.Model]
    (name label : String) : Frugal answer deadline 4 10 (unlabel kind name label) :=
  Frugal.bind (l := 0) (m := 0) (fun w => spends_onStore (frugal_mutate name _ w)) fun _ => frugal_done _

theorem Undo.frugal_program {deadline : Nat} (undo : Undo) :
    Frugal answer deadline undo.pauses undo.calls undo.program := by
  cases undo with
  | delete kind name => exact frugal_call fun reply => frugal_ofOutcome reply
  | unlabelPool name label => exact frugal_unlabel .pool name label
  | unlabelNode name label => exact frugal_unlabel .node name label
  | deleteNode name machine =>
    refine (frugal_deleteIfPresent .node name).bind (l := 0) (m := 1) fun result => ?_
    cases result with
    | error e => exact (frugal_done _).mono (Nat.le_refl 0) (Nat.zero_le 1)
    | ok _ =>
      cases machine with
      | none => exact (frugal_done _).mono (Nat.le_refl 0) (Nat.zero_le 1)
      | some machine => exact frugal_deleteIfPresent .machine machine

theorem CleanupReport.frugal_carryOut {deadline : Nat} (undos : List Undo)
    (report : CleanupReport) :
    Frugal answer deadline (undos.map Undo.pauses).sum (undos.map Undo.calls).sum
      (carryOut (undos.map Undo.action) report) := by
  induction undos generalizing report with
  | nil => exact frugal_done report
  | cons undo undos ih =>
    rw [List.map_cons, List.map_cons, List.map_cons, List.sum_cons, List.sum_cons]
    exact undo.frugal_program.attempt.bind fun o => ih _

theorem Progress.frugal_runAll {deadline : Nat} (q : Progress) (skip : Bool) :
    Frugal answer deadline (q.undos.map Undo.pauses).sum (q.undos.map Undo.calls).sum
      (q.registry.runAll skip) := by
  cases skip with
  | true => exact (frugal_done _).mono (Nat.zero_le _) (Nat.zero_le _)
  | false =>
    have hsum : ∀ cost : Undo → Nat, (q.undos.map cost).sum = (q.undos.reverse.map cost).sum := by
      intro cost
      rw [List.map_reverse, List.sum_reverse]
    rw [Progress.registry_eq, Registry.runAll_ofPrograms, ← List.map_reverse, hsum, hsum]
    exact (CleanupReport.frugal_carryOut q.undos.reverse {}).bind (l := 0) (m := 0) fun report =>
      frugal_done _

/-! ## The run -/

namespace Scenario

theorem spends_run {options : ScenarioOptions} (hvalid : options.validate = .ok ())
    (w : World σ) :
    Spends answer (w.clock + 1000 * options.timeouts.scenario) 16 61 (run options) w := by
  refine (spends_phases hvalid w).bind (l := 8) (m := 27) fun t (ending, q) hruns => ?_
  obtain ⟨seen, done, node, hplan, hat⟩ := phases_acquire hruns
  obtain ⟨hpauses, hcalls⟩ := cost_of_prefix_plan hplan
  rw [← hat.registered] at hpauses hcalls
  exact ((q.frugal_runAll options.skipCleanup).mono hpauses hcalls).bind (l := 0) (m := 0)
    fun (cleanup, _) => frugal_done _

theorem run_of_invalid {options : ScenarioOptions} {e : Error} (h : options.validate = .error e) :
    run options = .done
      (.error { scenario := options.name, phase := .validate, source := e, cleanup := {} }) := by
  unfold run
  rw [Phases.all_of_invalid h]
  cases options.skipCleanup <;> rfl

/-- The clock can show the deadline of valid options, unless it is about to run out. -/
theorem after?_of_valid {options : ScenarioOptions} (hvalid : options.validate = .ok ())
    {w : World σ} (hclock : w.clock / 1000 + Timeouts.maxBudget ≤ Instant.lastSecond) :
    ∃ deadline, w.now.after? (.ofSecs options.timeouts.scenario) = some deadline := by
  have hbudget := (ScenarioOptions.timeouts_of_validate hvalid).2
  refine ⟨_, Instant.after?_eq_some_iff.mpr ⟨?_, rfl⟩⟩
  simp only [Duration.secs, Duration.nanos_add, World.now, Instant.ofMillis, Duration.ofMillis,
    Duration.ofSecs, Duration.nanosPerMilli, Duration.nanosPerSec]
  omega

/-- Once they know their deadline, the phases begin to provision. -/
theorem track_afterOpening (ctx : ScenarioContext) :
    ∃ next, Phased.track (Phases.afterOpening ctx).run {} =
      .ask (.call (.store .secret .list)) next :=
  ⟨_, rfl⟩

theorem provisions_of_valid {options : ScenarioOptions} (hvalid : options.validate = .ok ())
    {w : World σ} (hclock : w.clock / 1000 + Timeouts.maxBudget ≤ Instant.lastSecond) :
    ∃ reply rest, (run options).trace (World.reply answer) w =
      ⟨.now, w.now⟩ :: ⟨.call (.store .secret .list), reply⟩ :: rest := by
  obtain ⟨deadline, hdeadline⟩ := after?_of_valid hvalid hclock
  obtain ⟨next, hnext⟩ := track_afterOpening { options, deadline }
  have hphases : ∃ reply rest, (Phased.track (Phases.all options).run {}).trace
      (World.reply answer) w = ⟨.now, w.now⟩ :: ⟨.call (.store .secret .list), reply⟩ :: rest := by
    rw [Phases.all_of_valid hvalid, Phased.track_now_bind, trace_now_bind, hdeadline,
      Phases.contextOf, pure_bind, hnext]
    exact ⟨_, _, rfl⟩
  obtain ⟨reply, rest, hphases⟩ := hphases
  refine ⟨reply, ?_⟩
  rw [run, trace_bind, hphases]
  exact ⟨_, rfl⟩

/-- A run always comes back. If the options are valid, it does so by the end of the scenario's budget
and 240 ms, teardown included, having made at most one call for each second of the budget and 61
besides; and the budget is not found to be too large, as long as the clock has a week left to show. If
they are not, the run asks nothing and takes no time. -/
theorem run_within_budget (options : ScenarioOptions)
    (answer : (call : PlaneCall) → σ → Attempted call.Answer × σ) (w : World σ) :
    ∃ result w', (run options).runIn answer w = (.returned result, w') ∧
      (options.validate = .ok () →
        w'.clock ≤ w.clock + 1000 * options.timeouts.scenario + 240 ∧
        (calls ((run options).trace (World.reply answer) w)).length ≤
          options.timeouts.scenario + 61 ∧
        (w.clock / 1000 + Timeouts.maxBudget ≤ Instant.lastSecond →
          ∃ reply rest, (run options).trace (World.reply answer) w =
            ⟨.now, w.now⟩ :: ⟨.call (.store .secret .list), reply⟩ :: rest)) ∧
      ∀ e, options.validate = .error e →
        (run options).trace (World.reply answer) w = [] ∧ w' = w ∧
        result = .error
          { scenario := options.name, phase := .validate, source := e, cleanup := {} } := by
  obtain ⟨result, hresult⟩ : ∃ result, ((run options).runIn answer w).1 = .returned result := by
    obtain ⟨_, _, _, _, _, _, -, -, -, ho⟩ :=
      exists_of_runs_run (runs_trace (World.reply answer) (run options) w)
    exact ⟨_, ho⟩
  refine ⟨result, ((run options).runIn answer w).2, Prod.ext hresult rfl, fun hvalid => ?_,
    fun e he => ?_⟩
  · have hspends : Spends answer _ 16 61 (run options) w := spends_run hvalid w
    obtain ⟨-, hends, hcalled⟩ := hspends
    simp only [longestPause] at hends
    exact ⟨by omega, by omega, provisions_of_valid hvalid⟩
  · rw [run_of_invalid he] at hresult ⊢
    exact ⟨rfl, rfl, (Outcome.returned.inj hresult).symm⟩

end Scenario

end BuildTrial
