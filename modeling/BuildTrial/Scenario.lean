import BuildTrial.Scenario.Phases

/-!
# Running a scenario

A run goes through the phases until the first error or panic and then, whatever happened, through
the teardown of everything that was registered. The first failure is the one that is reported, with
the phase it happened in; only if all phases passed does a failed teardown fail the run.
-/

namespace BuildTrial

namespace Scenario

/-- What the phases amount to: a panic counts as an internal error of the phase it happened in. -/
def phasesResult (phase : Phase) : Outcome (Except Error PhasesOutcome) → Except Error PhasesOutcome
  | .returned result => result
  | .panicked payload => .error (.ofPanic phase.text payload)

/-- The end of a run, from how the phases ended, the phase they ended in, and the teardown. -/
def conclude (scenario : String) (phase : Phase) (result : Except Error PhasesOutcome)
    (cleanup : CleanupReport) : Except ScenarioFailure ScenarioOutcome :=
  match result with
  | .error source => .error { scenario, phase, source, cleanup }
  | .ok outcome =>
    match cleanup.toError? with
    | some source => .error { scenario, phase := .cleanup, source, cleanup }
    | none => .ok { outcome with scenario, cleanup }

/-- Run a scenario: its phases, then the teardown. -/
def run (options : ScenarioOptions) : PlaneProgram (Except ScenarioFailure ScenarioOutcome) :=
  (Phased.track (Phases.all options).run {}).bind fun (outcome, progress) =>
    (progress.registry.runAll options.skipCleanup).bind fun (cleanup, _) =>
      .done (conclude options.name progress.phase (phasesResult progress.phase outcome) cleanup)

end Scenario

end BuildTrial
