import BuildTrial.Proofs.Program.Calls
import BuildTrial.Proofs.Scenario.Mirror
import BuildTrial.Proofs.Scenario.Steady

/-!
# Random factors make no difference to a scenario

Two runs of a scenario that differ in nothing but the random factors of their pauses make the same
calls, end with the same result and the same teardown report, leave the same control plane behind, and
end in the same second (`run_of_any_jitter`). This holds of every control plane that does not look at
the clock, and there are at most sixteen pauses, eight before the teardown and eight in it, far too few
to add up to a second.
-/

namespace BuildTrial

open Program

variable {σ : Type} {answer : (call : PlaneCall) → σ → Attempted call.Answer × σ}

/-! ## The deadline -/

/-- A budget that begins on a whole second ends on one. -/
theorem onTheSecond_of_after? {options : ScenarioOptions} {t secs : Nat} {deadline : Instant}
    (ht : t % 1000 = 0) (h : (Instant.ofMillis t).after? (.ofSecs secs) = some deadline) :
    Phases.OnTheSecond { options, deadline } := by
  refine ⟨t / 1000 + secs, (Instant.eq_ofMillis_of_after? h).trans (congrArg Instant.ofMillis ?_)⟩
  omega

/-- From a whole second on, all phases keep in step. -/
theorem endAlike_phases (options : ScenarioOptions) {w w' : World σ} (hdrift : Drift 0 w w') :
    EndAlike answer 8 (Phased.track (Phases.all options).run {})
      (Phased.track (Phases.all options).run {}) w w' := by
  cases hvalid : options.validate with
  | error e =>
    rw [Phases.all_of_invalid hvalid]
    exact (Phased.steady_throw e).mono (Nat.zero_le 8) {} 0 w w' (by decide) hdrift
  | ok _ =>
    -- two clocks that show the same second, and are not off it, are equal
    have hzero : w.clock % 1000 = 0 := Nat.le_zero.mp hdrift.late
    have hclock : w'.clock = w.clock := by
      have hseconds := hdrift.clock.seconds
      have honTime := hdrift.clock.onTime
      omega
    have hnow : w'.now = w.now := congrArg Instant.ofMillis hclock
    unfold EndAlike
    rw [Phases.all_of_valid hvalid, Phased.track_now_bind, runIn_now_bind, runIn_now_bind, hnow]
    cases hdeadline : w.now.after? (.ofSecs options.timeouts.scenario) with
    | none =>
      rw [Phases.contextOf, Phased.throw_bind]
      exact (Phased.steady_throw _).mono (Nat.zero_le 8) {} 0 w w' (by decide) hdrift
    | some deadline =>
      rw [Phases.contextOf, pure_bind]
      exact Phases.steady_afterOpening (onTheSecond_of_after? hzero hdeadline) {} 0 w w'
        (by decide) hdrift

/-! ## The teardown -/

theorem Undo.steady_deleteIfPresent (kind : Kind) (name : String) :
    Steady answer 0 (deleteIfPresent kind name) :=
  inStep_call fun _ => inStep_ofOutcome_bind fun _ => inStep_done _

theorem Undo.steady_unlabel (kind : Kind) [Labelled kind.Model] (name label : String) :
    Steady answer 4 (unlabel kind name label) :=
  (steady_onStore (steady_mutate name _)).bind (l := 0) fun _ => inStep_done _

theorem Undo.steady_program (undo : Undo) : Steady answer undo.pauses undo.program := by
  cases undo with
  | delete kind name => exact inStep_call fun reply => inStep_ofOutcome reply
  | unlabelPool name label => exact steady_unlabel .pool name label
  | unlabelNode name label => exact steady_unlabel .node name label
  | deleteNode name machine =>
    refine (steady_deleteIfPresent .node name).bind (l := 0) fun result => ?_
    cases result with
    | error e => exact inStep_done _
    | ok _ =>
      cases machine with
      | none => exact inStep_done _
      | some machine => exact steady_deleteIfPresent .machine machine

theorem CleanupReport.steady_carryOut (undos : List Undo) (report : CleanupReport) :
    Steady answer (undos.map Undo.pauses).sum (carryOut (undos.map Undo.action) report) := by
  induction undos generalizing report with
  | nil => exact inStep_done report
  | cons undo undos ih =>
    rw [List.map_cons, List.map_cons, List.sum_cons]
    exact undo.steady_program.attempt.bind fun o => ih _

theorem Progress.steady_runAll (q : Progress) (skip : Bool) :
    Steady answer (q.undos.map Undo.pauses).sum (q.registry.runAll skip) := by
  cases skip with
  | true => exact (inStep_done _).mono (Nat.zero_le _)
  | false =>
    have hsum : (q.undos.map Undo.pauses).sum = (q.undos.reverse.map Undo.pauses).sum := by
      rw [List.map_reverse, List.sum_reverse]
    rw [Progress.registry_eq, Registry.runAll_ofPrograms, ← List.map_reverse, hsum]
    exact (CleanupReport.steady_carryOut q.undos.reverse {}).bind (l := 0) fun report =>
      inStep_done _

/-! ## The run -/

namespace Scenario

theorem endAlike_run (options : ScenarioOptions) {w w' : World σ} (hdrift : Drift 0 w w') :
    EndAlike answer 16 (run options) (run options) w w' := by
  refine (endAlike_phases options hdrift).bind (l := 8) (by decide) fun t (ending, q) hruns => ?_
  obtain ⟨seen, done, node, hplan, hat⟩ := phases_acquire hruns
  have hpauses : (q.undos.map Undo.pauses).sum ≤ 8 := by
    rw [hat.registered]
    exact (cost_of_prefix_plan hplan).1
  exact ((q.steady_runAll options.skipCleanup).mono hpauses).bind (l := 0) fun (cleanup, _) =>
    inStep_done _

/-- From the start of the clock, with the same choices, a scenario runs the same whatever the random
factors of its pauses are: the same calls with the same replies, the same result, and the same control
plane afterwards. The runs end in the same second. -/
theorem run_of_any_jitter (options : ScenarioOptions)
    (answer : (call : PlaneCall) → σ → Attempted call.Answer × σ) (plane : σ) (pick : Nat → Nat)
    (jitter jitter' : Nat → Jitter) :
    let w : World σ := { World.start plane with pick, jitter }
    let w' : World σ := { World.start plane with pick, jitter := jitter' }
    calls ((run options).trace (World.reply answer) w') =
        calls ((run options).trace (World.reply answer) w) ∧
      ((run options).runIn answer w').1 = ((run options).runIn answer w).1 ∧
      ((run options).runIn answer w').2.plane = ((run options).runIn answer w).2.plane ∧
      ((run options).runIn answer w').2.clock / 1000 =
        ((run options).runIn answer w).2.clock / 1000 := by
  intro w w'
  have hdrift : Drift 0 (w.withLog ([] : Trace planeInterface)) (w'.withLog []) :=
    ⟨rfl, rfl, rfl, ⟨rfl, Iff.rfl⟩, Nat.le_refl 0, Nat.le_refl 0⟩
  -- in surroundings with a log, to leave the same behind is to have made the same calls
  obtain ⟨houtcome, hend⟩ : EndAlike (recorded answer) 16 (run options) (run options) _ _ :=
    endAlike_run options hdrift
  have hplane := hend.plane
  have hseconds := hend.clock.seconds
  rw [runIn_recorded answer (run options), runIn_recorded answer (run options)] at *
  obtain ⟨hplane, hcalls⟩ := Prod.mk.inj hplane
  rw [List.nil_append, List.nil_append] at hcalls
  exact ⟨hcalls, houtcome, hplane, hseconds.symm⟩

end Scenario

end BuildTrial
