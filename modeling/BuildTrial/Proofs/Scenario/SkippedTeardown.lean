import BuildTrial.Proofs.Program.Drift
import BuildTrial.Proofs.Scenario.Sequence
import BuildTrial.Proofs.Scenario.Verdict

/-!
# Leaving everything in place

To skip the cleanup changes nothing but the teardown. None of the phases looks at that option
(`Phases.all_withSkipCleanup`), so a run that skips the cleanup and one that does not go through the same
phases in the same surroundings and end them alike. After that the one asks nothing more and lists what
it leaves behind, and the other attempts to undo just that, in the order of the list.
-/

namespace BuildTrial

/-! ## No phase looks at the option -/

namespace Phases

variable (options : ScenarioOptions) (skip : Bool)

theorem provision_withSkipCleanup (deadline : Instant) :
    provision ⟨options.withSkipCleanup skip, deadline⟩ = provision ⟨options, deadline⟩ := rfl

theorem optIn_withSkipCleanup (deadline : Instant) :
    optIn ⟨options.withSkipCleanup skip, deadline⟩ = optIn ⟨options, deadline⟩ := rfl

theorem buildStart_withSkipCleanup (deadline : Instant) :
    buildStart ⟨options.withSkipCleanup skip, deadline⟩ = buildStart ⟨options, deadline⟩ := rfl

theorem buildCompletion_withSkipCleanup (deadline : Instant) :
    buildCompletion ⟨options.withSkipCleanup skip, deadline⟩ =
      buildCompletion ⟨options, deadline⟩ := rfl

theorem rollout_withSkipCleanup (deadline : Instant) :
    rollout ⟨options.withSkipCleanup skip, deadline⟩ = rollout ⟨options, deadline⟩ := rfl

theorem afterOpening_withSkipCleanup (deadline : Instant) :
    afterOpening ⟨options.withSkipCleanup skip, deadline⟩ = afterOpening ⟨options, deadline⟩ := by
  unfold afterOpening
  rw [provision_withSkipCleanup, optIn_withSkipCleanup, buildStart_withSkipCleanup,
    buildCompletion_withSkipCleanup, rollout_withSkipCleanup]
  rfl

theorem all_withSkipCleanup : all (options.withSkipCleanup skip) = all options := by
  have hvalidate : (options.withSkipCleanup skip).validate = options.validate := rfl
  cases h : options.validate with
  | error e => rw [all_of_invalid h, all_of_invalid (hvalidate.trans h)]
  | ok =>
    rw [all_of_valid h, all_of_valid (hvalidate.trans h)]
    refine bind_congr fun started => ?_
    show contextOf _ (started.after? (.ofSecs options.timeouts.scenario)) >>= _ = _
    cases started.after? (.ofSecs options.timeouts.scenario) with
    | some deadline => exact afterOpening_withSkipCleanup options skip deadline
    | none => rfl

end Phases

/-! ## What is left behind, and what is undone -/

/-- `zs` is made up of `xs` and `ys`, each of them in its order. -/
inductive Interleaved {α : Type} : (xs ys zs : List α) → Prop where
  | nil : Interleaved [] [] []
  | left (x : α) {xs ys zs : List α} (h : Interleaved xs ys zs) : Interleaved (x :: xs) ys (x :: zs)
  | right (y : α) {xs ys zs : List α} (h : Interleaved xs ys zs) : Interleaved xs (y :: ys) (y :: zs)

/-- Every attempt at an undoing has either succeeded or failed. -/
theorem CleanupReport.interleaved_ofEndings (endings : List (Undo × Attempted Unit)) :
    Interleaved (ofEndings endings).completed ((ofEndings endings).failed.map (·.1))
      (endings.map (·.1.name)) := by
  induction endings with
  | nil => exact .nil
  | cons attempt endings ih =>
    obtain ⟨undo, (e | ⟨⟩) | payload⟩ := attempt
    · exact .right undo.name ih
    · exact .left undo.name ih
    · exact .right undo.name ih

namespace Scenario

section

variable {σ : Type} (answer : (call : PlaneCall) → σ → Attempted call.Answer × σ)
  (options : ScenarioOptions) (w : World σ)

/-- The phases of a run come first, the same whether the cleanup is skipped or not. -/
theorem tornDown_of_phases {ending : Outcome (Except Error PhasesOutcome)} {progress : Progress}
    {w₁ : World σ}
    (h : (Phased.track (Phases.all options).run {}).runIn (I := planeInterface) answer w =
      (.returned (ending, progress), w₁)) (skip : Bool) :
    ∃ teardown cleanup, TornDown progress.undos skip teardown cleanup ∧
      (run (options.withSkipCleanup skip)).trace (World.reply (I := planeInterface) answer) w =
        (Phased.track (Phases.all options).run {}).trace (World.reply (I := planeInterface) answer) w ++
          teardown ∧
      ((run (options.withSkipCleanup skip)).runIn (I := planeInterface) answer w).1 =
        .returned (conclude options.name progress.phase (phasesResult progress.phase ending)
          cleanup) := by
  have hruns := Program.runs_trace (World.reply (I := planeInterface) answer)
    (progress.registry.runAll skip) w₁
  obtain ⟨cleanup, registry, hteardown⟩ := Progress.returned_of_runs_runAll hruns
  rw [hteardown] at hruns
  rcases hrun : (progress.registry.runAll skip).run (World.reply (I := planeInterface) answer) w₁ with
    ⟨o, w₂⟩
  rw [hrun] at hteardown
  obtain rfl : o = _ := hteardown
  have hphases : (Phased.track (Phases.all options).run {}).run
      (World.reply (I := planeInterface) answer) w = (.returned (ending, progress), w₁) := h
  refine ⟨_, cleanup, Progress.tornDown hruns, ?_, ?_⟩
  · unfold run
    rw [Phases.all_withSkipCleanup, Program.trace_bind, hphases]
    refine congrArg _ ?_
    show Program.trace _ ((progress.registry.runAll skip).bind _) w₁ = _
    rw [Program.trace_bind, hrun]
    exact List.append_nil _
  · unfold run
    rw [Phases.all_withSkipCleanup, Program.runIn_bind, h]
    show (Program.runIn _ ((progress.registry.runAll skip).bind _) w₁).1 = _
    rw [Program.runIn_bind, show (progress.registry.runAll skip).runIn (I := planeInterface) answer w₁ =
      (.returned (cleanup, registry), w₂) from hrun]
    rfl

end

/-- A run that skips the cleanup and one that does not, in the same surroundings, go through the same
phases with the same result. What the second one asks on top are attempts to undo, newest first, what
the first one has listed as skipped; those that succeed and those that fail make up that list. The run
that skips the cleanup reports nothing else, and passes if and only if its phases do. -/
theorem run_withSkipCleanup {σ : Type} (answer : (call : PlaneCall) → σ → Attempted call.Answer × σ)
    (options : ScenarioOptions) (w : World σ) :
    ∃ (ending : Outcome (Except Error PhasesOutcome)) (progress : Progress)
      (attempts : List (PlaneTrace × Attempted Unit)) (skipped cleaned : CleanupReport),
      ((Phased.track (Phases.all options).run {}).runIn (I := planeInterface) answer w).1 =
        .returned (ending, progress) ∧
      (run (options.withSkipCleanup false)).trace (World.reply (I := planeInterface) answer) w =
        (run (options.withSkipCleanup true)).trace (World.reply (I := planeInterface) answer) w ++
          (attempts.map (·.1)).flatten ∧
      List.Forall₂ (fun (undo : Undo) attempt => undo.program.Runs attempt.1 attempt.2)
        progress.undos.reverse attempts ∧
      ((run (options.withSkipCleanup true)).runIn (I := planeInterface) answer w).1 =
        .returned (conclude options.name progress.phase (phasesResult progress.phase ending)
          skipped) ∧
      ((run (options.withSkipCleanup false)).runIn (I := planeInterface) answer w).1 =
        .returned (conclude options.name progress.phase (phasesResult progress.phase ending)
          cleaned) ∧
      skipped = { skipped := progress.undos.reverse.map Undo.name } ∧
      Interleaved cleaned.completed (cleaned.failed.map (·.1)) skipped.skipped ∧
      cleaned.alreadyRan = [] ∧ cleaned.skipped = [] ∧
      ((∃ outcome, conclude options.name progress.phase (phasesResult progress.phase ending) skipped =
          .ok outcome) ↔ ∃ outcome, ending = .returned (.ok outcome)) := by
  have hruns := Program.runs_trace (World.reply (I := planeInterface) answer)
    (Phased.track (Phases.all options).run {}) w
  obtain ⟨ending, progress, hending⟩ := Phased.exists_of_runs_track hruns
  have hphases : (Phased.track (Phases.all options).run {}).runIn (I := planeInterface) answer w =
      (.returned (ending, progress), _) := Prod.ext hending rfl
  obtain ⟨_, skipped, hskipped, htrace, hresult⟩ := tornDown_of_phases answer options w hphases true
  obtain ⟨_, cleaned, hcleaned, htrace', hresult'⟩ :=
    tornDown_of_phases answer options w hphases false
  cases hskipped
  cases hcleaned with
  | attempted attempts each =>
    rw [List.append_nil] at htrace
    refine ⟨ending, progress, attempts, _, _, hending, ?_, each, hresult, hresult', rfl, ?_, rfl, rfl,
      ?_⟩
    · rw [htrace, htrace']
    · have hlength : progress.undos.reverse.length = (attempts.map (·.2)).length := by
        rw [List.length_map, each.length_eq]
      have hnames : progress.undos.reverse.map Undo.name =
          (progress.undos.reverse.zip (attempts.map (·.2))).map (·.1.name) := by
        conv_lhs => rw [← List.map_fst_zip (Nat.le_of_eq hlength)]
        exact List.map_map
      rw [hnames]
      exact CleanupReport.interleaved_ofEndings _
    · rcases ending with (e | outcome) | payload
      · simp [phasesResult, conclude]
      · simp [phasesResult, conclude, CleanupReport.toError?, CleanupReport.isClean]
      · simp [phasesResult, conclude]

end Scenario

end BuildTrial
