import BuildTrial.Proofs.Scenario.Stages
import BuildTrial.Proofs.Scenario.Teardown
import Mathlib.Data.List.Forall2

/-!
# How a run is judged

A run always comes back with a result, and the result follows from how its last stage and its teardown
ended (`run_judged`). The first error or panic of the phases decides, together with the phase that it
happened in; what fails in the teardown after it is only reported. A teardown that fails after phases
that passed is a failure of its own, which names what failed. The report accounts for everything that
the run registered.
-/

namespace BuildTrial

/-! ## The teardown and its report -/

namespace Undo

/-- The entry of an undoing among those that succeeded. -/
def completed? (undo : Undo) : Attempted Unit → Option String
  | .returned (.ok ()) => some undo.name
  | _ => none

/-- The entry of an undoing among those that failed. -/
def failure? (undo : Undo) : Attempted Unit → Option (String × Error)
  | .returned (.ok ()) => none
  | .returned (.error e) => some (undo.name, e)
  | .panicked payload => some (undo.name, .internal undo.name ("PANIC: " ++ payload.message))

end Undo

/-- The report of undoings that ended so, in the order in which they were attempted. -/
def CleanupReport.ofEndings (endings : List (Undo × Attempted Unit)) : CleanupReport where
  completed := endings.filterMap fun (undo, ending) => undo.completed? ending
  failed := endings.filterMap fun (undo, ending) => undo.failure? ending

/-- What a teardown of the given undoings asks and reports: nothing and all of them as skipped, or one
attempt at each, newest first, and how it ended. -/
inductive TornDown (undos : List Undo) : (skip : Bool) → PlaneTrace → CleanupReport → Prop where
  | skipped : TornDown undos true [] { skipped := undos.reverse.map Undo.name }
  | attempted (attempts : List (PlaneTrace × Attempted Unit))
      (each : List.Forall₂ (fun (undo : Undo) attempt => undo.program.Runs attempt.1 attempt.2)
        undos.reverse attempts) :
      TornDown undos false (attempts.map (·.1)).flatten
        (.ofEndings (undos.reverse.zip (attempts.map (·.2))))

namespace CleanupReport

theorem record_settle (completed : List String) (failed : List (String × Error)) (undo : Undo)
    (ending : Attempted Unit) :
    record { completed, failed } undo.name (some (ending.settle undo.name)) =
      { completed := completed ++ (undo.completed? ending).toList
        failed := failed ++ (undo.failure? ending).toList } := by
  rcases ending with (e | ⟨⟩) | payload <;>
    simp [record, Outcome.settle, Undo.completed?, Undo.failure?, Error.ofPanic]

theorem attempts_of_runs {undos : List Undo} {completed : List String}
    {failed : List (String × Error)} {t : PlaneTrace} {report : CleanupReport}
    (h : (carryOut (undos.map Undo.action) { completed, failed }).Runs t (.returned report)) :
    ∃ attempts : List (PlaneTrace × Attempted Unit),
      List.Forall₂ (fun (undo : Undo) attempt => undo.program.Runs attempt.1 attempt.2) undos
        attempts ∧ t = (attempts.map (·.1)).flatten ∧
      report =
        { completed := completed ++ (ofEndings (undos.zip (attempts.map (·.2)))).completed
          failed := failed ++ (ofEndings (undos.zip (attempts.map (·.2)))).failed } := by
  induction undos generalizing completed failed t with
  | nil =>
    obtain ⟨rfl, rfl⟩ := runs_carryOut_nil_iff.mp h
    exact ⟨[], .nil, rfl, by simp [ofEndings]⟩
  | cons undo undos ih =>
    obtain ⟨t₁, o₁, t₂, rfl, h₁, h₂⟩ := runs_carryOut_cons_iff.mp h
    change (carryOut _ (record _ undo.name (some (o₁.settle undo.name)))).Runs _ _ at h₂
    rw [record_settle] at h₂
    obtain ⟨attempts, hall, rfl, rfl⟩ := ih h₂
    refine ⟨(t₁, o₁) :: attempts, .cons h₁ hall, rfl, ?_⟩
    cases hcompleted : undo.completed? o₁ <;> cases hfailure : undo.failure? o₁ <;>
      simp [ofEndings, hcompleted, hfailure]

theorem ofEndings_cons_ok (undo : Undo) (endings : List (Undo × Attempted Unit)) :
    ofEndings ((undo, .returned (.ok ())) :: endings) =
      { ofEndings endings with completed := undo.name :: (ofEndings endings).completed } := rfl

theorem ofEndings_cons_error (undo : Undo) (e : Error) (endings : List (Undo × Attempted Unit)) :
    ofEndings ((undo, .returned (.error e)) :: endings) =
      { ofEndings endings with failed := (undo.name, e) :: (ofEndings endings).failed } := rfl

/-- A teardown that succeeds throughout reports every undoing as completed. -/
theorem ofEndings_of_ok {undos : List Undo} {attempts : List (PlaneTrace × Attempted Unit)}
    (hlength : undos.length = attempts.length)
    (hok : ∀ attempt ∈ attempts, attempt.2 = .returned (.ok ())) :
    ofEndings (undos.zip (attempts.map (·.2))) = { completed := undos.map Undo.name } := by
  induction undos generalizing attempts with
  | nil => rfl
  | cons undo undos ih =>
    cases attempts with
    | nil => cases hlength
    | cons attempt attempts =>
      obtain ⟨hfirst, hrest⟩ := List.forall_mem_cons.mp hok
      rw [List.map_cons, List.zip_cons_cons, hfirst, ofEndings_cons_ok,
        ih (Nat.succ.inj hlength) hrest]
      rfl

end CleanupReport

/-- Of actions that were never run, a pass that runs nothing reports each as skipped. -/
theorem Registry.idleReport_ofPrograms {I : Interface} (actions : List (PlainAction I)) :
    (ofPrograms actions).idleReport = { skipped := actions.reverse.map PlainAction.name } := by
  have h : ∀ (actions : List (PlainAction I)) (skipped : List String),
      (actions.map PlainAction.toAction).foldl
        (fun report action => report.recordIdle action.status) { skipped : CleanupReport } =
      { skipped := skipped ++ actions.map PlainAction.name } := by
    intro actions
    induction actions with
    | nil => simp
    | cons a actions ih =>
      intro skipped
      have hrecord : CleanupReport.recordIdle { skipped } a.toAction.status =
          { skipped := skipped ++ [a.name] } := rfl
      rw [List.map_cons, List.foldl_cons, hrecord, ih]
      simp
  rw [idleReport, ofPrograms, ← List.map_reverse]
  exact h actions.reverse []

theorem Progress.tornDown {q : Progress} {skip : Bool} {t : PlaneTrace} {cleanup : CleanupReport}
    {registry : Registry planeInterface.timed}
    (h : (q.registry.runAll skip).Runs t (.returned (cleanup, registry))) :
    TornDown q.undos skip t cleanup := by
  rw [registry_eq] at h
  cases skip with
  | true =>
    obtain ⟨rfl, ho⟩ := Program.runs_done_iff.mp h
    obtain ⟨rfl, -⟩ := Prod.mk.inj (Outcome.returned.inj ho)
    rw [Registry.idleReport_ofPrograms, ← List.map_reverse, List.map_map]
    exact .skipped
  | false =>
    rw [Registry.runAll_ofPrograms] at h
    rcases Program.runs_bind_iff.mp h with ⟨t, report, _, rfl, h₁, h₂⟩ | ⟨_, h₁, ho⟩
    · obtain ⟨rfl, ho⟩ := Program.runs_done_iff.mp h₂
      cases ho
      rw [← List.map_reverse] at h₁
      obtain ⟨attempts, hall, rfl, rfl⟩ := CleanupReport.attempts_of_runs h₁
      rw [List.append_nil]
      exact .attempted attempts hall
    · cases ho

/-- Whether the report says anything about an action with this name. -/
def CleanupReport.Mentions (report : CleanupReport) (name : String) : Prop :=
  name ∈ report.completed ∨ name ∈ report.failed.map (·.1) ∨ name ∈ report.skipped

theorem CleanupReport.mentions_ofEndings {endings : List (Undo × Attempted Unit)} {undo : Undo}
    {ending : Attempted Unit} (h : (undo, ending) ∈ endings) :
    (ofEndings endings).Mentions undo.name := by
  rcases ending with (e | ⟨⟩) | payload
  · refine .inr (.inl (List.mem_map.mpr ⟨(undo.name, e), ?_, rfl⟩))
    exact List.mem_filterMap.mpr ⟨_, h, rfl⟩
  · exact .inl (List.mem_filterMap.mpr ⟨_, h, rfl⟩)
  · refine .inr (.inl (List.mem_map.mpr
      ⟨(undo.name, .internal undo.name ("PANIC: " ++ payload.message)), ?_, rfl⟩))
    exact List.mem_filterMap.mpr ⟨_, h, rfl⟩

theorem TornDown.mentions {undos : List Undo} {skip : Bool} {t : PlaneTrace}
    {cleanup : CleanupReport} (h : TornDown undos skip t cleanup) :
    ∀ undo ∈ undos, cleanup.Mentions undo.name := by
  intro undo hmem
  rw [← List.mem_reverse] at hmem
  cases h with
  | skipped => exact .inr (.inr (List.mem_map_of_mem hmem))
  | attempted attempts each =>
    obtain ⟨i, hi, rfl⟩ := List.mem_iff_getElem.mp hmem
    have hlength : undos.reverse.length = (attempts.map (·.2)).length := by
      rw [List.length_map, each.length_eq]
    have hlt : i < (undos.reverse.zip (attempts.map (·.2))).length := by
      rw [List.length_zip]
      omega
    have hentry := List.getElem_mem hlt
    rw [List.getElem_zip] at hentry
    exact CleanupReport.mentions_ofEndings hentry

/-! ## The judgement -/

/-- The result that a run has to come back with, from the end of its last stage, the phase of that
stage, and the report of the teardown. -/
inductive Judged (options : ScenarioOptions) (s : Stage) (cleanup : CleanupReport) :
    Outcome (Except Error s.Answer) → Except ScenarioFailure ScenarioOutcome → Prop where
  | passed (a : s.Answer) (outcome : PhasesOutcome) (last : s.next a = .inr outcome)
      (clean : cleanup.failed = []) :
      Judged options s cleanup (.returned (.ok a))
        (.ok { outcome with scenario := options.name, cleanup })
  | leftBehind (a : s.Answer) (outcome : PhasesOutcome) (last : s.next a = .inr outcome)
      (unclean : cleanup.failed ≠ []) :
      Judged options s cleanup (.returned (.ok a))
        (.error
          { scenario := options.name, phase := .cleanup
            source := .cleanupFailed (cleanup.failed.map (·.1)), cleanup })
  | failed (e : Error) :
      Judged options s cleanup (.returned (.error e))
        (.error { scenario := options.name, phase := s.phase, source := e, cleanup })
  | panicked (payload : Panic) :
      Judged options s cleanup (.panicked payload)
        (.error
          { scenario := options.name, phase := s.phase
            source := .internal s.phase.text ("PANIC: " ++ payload.message), cleanup })

/-- Only a last stage that was passed and a teardown without failures make a run pass. -/
theorem Judged.ok_iff {options : ScenarioOptions} {s : Stage} {cleanup : CleanupReport}
    {ending : Outcome (Except Error s.Answer)} {result : Except ScenarioFailure ScenarioOutcome}
    (h : Judged options s cleanup ending result) :
    (∃ outcome, result = .ok outcome) ↔
      (∃ a, ending = .returned (.ok a)) ∧ cleanup.failed = [] := by
  cases h with
  | passed a outcome _ clean => simp [clean]
  | leftBehind a outcome _ unclean => simp [unclean]
  | failed e => simp
  | panicked payload => simp

namespace Scenario

variable {options : ScenarioOptions}

theorem judged_conclude {s : Stage} {ending : Outcome (Except Error s.Answer)}
    {phases : Outcome (Except Error PhasesOutcome)} (h : s.Ends ending phases)
    (cleanup : CleanupReport) :
    Judged options s cleanup ending
      (conclude options.name s.phase (phasesResult s.phase phases) cleanup) := by
  cases h with
  | passed a outcome h =>
    unfold phasesResult conclude CleanupReport.toError? CleanupReport.isClean
    by_cases hclean : cleanup.failed = []
    · simpa [hclean] using Judged.passed a outcome h hclean
    · simpa [hclean] using Judged.leftBehind a outcome h hclean
  | failed e => exact .failed e
  | panicked payload => exact .panicked payload

/-- Whatever the control plane does, a run comes back with a result and lets no panic escape. It passes
its stages up to the last one that it reaches, tears down all that was registered, and is judged by how
that last stage ended and, if this was well, by the teardown; so it passes only if all was well. The
report that comes with the result mentions all that was registered. -/
theorem run_judged {t : PlaneTrace} {o : Outcome (Except ScenarioFailure ScenarioOutcome)}
    (h : (run options).Runs t o) :
    ∃ s before q during ending q' teardown cleanup result,
      t = before ++ during ++ teardown ∧ Reached options s before q ∧
      (Phased.track s.program.run q).Runs during (.returned (ending, q')) ∧
      TornDown q'.undos options.skipCleanup teardown cleanup ∧
      o = .returned result ∧ Judged options s cleanup ending result ∧
      ((∃ outcome, result = .ok outcome) ↔
        (∃ a, ending = .returned (.ok a)) ∧ cleanup.failed = []) ∧
      ∀ undo ∈ q'.undos, cleanup.Mentions undo.name := by
  obtain ⟨phases, ending, q', teardown, cleanup, registry, rfl, hphases, hteardown, rfl⟩ :=
    exists_of_runs_run h
  obtain ⟨s, before, q, during, ending', rfl, hreached, hduring, hends, hphase⟩ :=
    phases_walk hphases
  have htorn := Progress.tornDown hteardown
  have hjudged : Judged options s cleanup ending' _ := judged_conclude hends cleanup
  rw [← hphase] at hjudged
  exact ⟨s, before, q, during, ending', q', teardown, cleanup, _, rfl, hreached, hduring, htorn, rfl,
    hjudged, hjudged.ok_iff, htorn.mentions⟩

/-- A cluster in which the build fails, the pool cannot be deleted, and the first deletion of a configuration
map panics. -/
def failedBuild : Rehearsal.Cluster :=
  { oneWorker ∅ with
    pools :=
      { memory :=
          { reconciler := some (Rehearsal.reconciler .pool
              [{ script :=
                  [[.rendered (some { name := "rendered-layered-1", sources := ["00-worker"] })],
                    [.state (some "Building")], [.state (some "Failed")]]
                 repeatLast := true }])
            refusedDeletes := ["layered"] } }
    configMaps := { faults := { delete := [some (.panic (.text "unreachable"))] } } }

/-- A run that fails over its build and then in its teardown. The build decides; the teardown goes on after
each failure, and its report has them all. -/
theorem run_judged_failedBuild :
    ∃ s before q during ending q' teardown cleanup result,
      (run deletesWorker).trace replies (.start failedBuild) = before ++ during ++ teardown ∧
      Reached deletesWorker s before q ∧
      (Phased.track s.program.run q).Runs during (.returned (ending, q')) ∧
      TornDown q'.undos false teardown cleanup ∧
      ((run deletesWorker).run replies (.start failedBuild)).1 = .returned result ∧
      Judged deletesWorker s cleanup ending result ∧
      ((∃ outcome, result = .ok outcome) ↔
        (∃ a, ending = .returned (.ok a)) ∧ cleanup.failed = []) ∧
      (∀ undo ∈ q'.undos, cleanup.Mentions undo.name) ∧
      result = .error
        { scenario := "demo"
          phase := .buildCompletion
          source := .unrecoverable "build completion" "build for pool layered failed"
          cleanup :=
            { completed :=
                ["remove label machineconfiguration.openshift.io/layering-enabled from Pool layered",
                  "delete ConfigMap on-cluster-build-config", "delete Secret global-pull-secret-copy",
                  "delete ImageRepository os-image"]
              failed :=
                [("delete ConfigMap on-cluster-build-custom-dockerfile",
                    .internal "delete ConfigMap on-cluster-build-custom-dockerfile"
                      "PANIC: unreachable"),
                  ("delete Pool layered",
                    .controlPlane "delete Pool" "refusing to delete layered" false)] } } := by
  obtain ⟨s, before, q, during, ending, q', teardown, cleanup, result, ht, hreached, hduring, htorn,
    ho, hjudged, hpasses, hmentions⟩ :=
    run_judged (Program.runs_trace replies (run deletesWorker) (.start failedBuild))
  refine ⟨s, before, q, during, ending, q', teardown, cleanup, result, ht, hreached, hduring, htorn,
    ho, hjudged, hpasses, hmentions, Outcome.returned.inj (ho.symm.trans ?_)⟩
  rw [run_eq rfl]
  rfl

end Scenario

end BuildTrial
