import BuildTrial.Proofs.Cleanup.Pass
import BuildTrial.Proofs.Mutate.Settled
import BuildTrial.Proofs.Scenario.Phased
import BuildTrial.Rehearsal.Cluster
import BuildTrial.Scenario

/-!
# The teardown of a scenario

A scenario registers undoings and nothing else, and each of them is a plain program over the control
plane. So its teardown is `CleanupReport.carryOut` of the undoings, newest first (`run_eq`). What one
undoing asks, whatever it is told, is `Undo.Performed`; `runs_carryOut_cons_iff` takes a teardown
apart, one undoing at a time.
-/

namespace BuildTrial

/-- The teardown action of an undoing. -/
def Undo.action (undo : Undo) : PlainAction planeInterface.timed := ⟨undo.name, undo.program⟩

/-- The registry that was built up holds the undoings as plain programs. -/
theorem Progress.registry_eq (p : Progress) :
    p.registry = .ofPrograms (p.undos.map Undo.action) := by
  have h : ∀ (undos : List Undo) (actions : List (Action planeInterface.timed)),
      undos.foldl (fun registry undo => registry.register undo.name (.ofProgram undo.program))
        (⟨actions⟩ : Registry planeInterface.timed) =
      ⟨actions ++ (undos.map Undo.action).map PlainAction.toAction⟩ := by
    intro undos
    induction undos with
    | nil => simp
    | cons undo undos ih =>
      intro actions
      rw [List.foldl_cons, Registry.register, ih]
      simp [PlainAction.toAction, Undo.action]
  simpa [registry, Registry.ofPrograms] using h p.undos []

/-- A run that cleans up: the phases, the undoing of all that they registered, newest first, and the
conclusion. -/
theorem Scenario.run_eq {options : ScenarioOptions} (hskip : options.skipCleanup = false) :
    run options = (Phased.track (Phases.all options).run {}).bind fun (outcome, progress) =>
      (CleanupReport.carryOut (progress.undos.reverse.map Undo.action) {}).bind fun cleanup =>
        .done (conclude options.name progress.phase (phasesResult progress.phase outcome)
          cleanup) := by
  unfold run
  refine congrArg _ (funext fun (outcome, progress) => ?_)
  simp only [hskip, Progress.registry_eq, Registry.runAll_ofPrograms, Program.bind_assoc,
    Program.bind, List.map_reverse]

namespace CleanupReport

variable {I : Interface}

theorem runs_carryOut_nil_iff {report report' : CleanupReport} {t : Trace I} :
    (carryOut [] report).Runs t (.returned report') ↔ t = [] ∧ report' = report := by
  simp [carryOut]

/-- One action, however it ends, and then the rest. -/
theorem runs_carryOut_cons_iff {a : PlainAction I} {rest : List (PlainAction I)}
    {report : CleanupReport} {t : Trace I} {o : Outcome CleanupReport} :
    (carryOut (a :: rest) report).Runs t o ↔
      ∃ t₁ o₁ t₂, t = t₁ ++ t₂ ∧ a.program.Runs t₁ o₁ ∧
        (carryOut rest (report.record a.name (some (o₁.settle a.name)))).Runs t₂ o := by
  rw [carryOut, Program.runs_bind_iff]
  constructor
  · rintro (⟨t₁, o₁, t₂, rfl, h₁, h₂⟩ | ⟨_, h₁, -⟩)
    · obtain ⟨_, h₁, ho⟩ := Program.runs_attempt_iff.mp h₁
      cases ho
      exact ⟨t₁, o₁, t₂, rfl, h₁, h₂⟩
    · obtain ⟨_, -, ho⟩ := Program.runs_attempt_iff.mp h₁
      cases ho
  · rintro ⟨t₁, o₁, t₂, rfl, h₁, h₂⟩
    exact .inl ⟨t₁, o₁, t₂, rfl, Program.runs_attempt_iff.mpr ⟨o₁, h₁, rfl⟩, h₂⟩

/-- A teardown pass comes back, whatever its actions do. -/
theorem returned_of_runs_carryOut {actions : List (PlainAction I)} {report : CleanupReport}
    {t : Trace I} {o : Outcome CleanupReport} (h : (carryOut actions report).Runs t o) :
    ∃ report', o = .returned report' := by
  induction actions generalizing report t with
  | nil => exact ⟨_, (Program.runs_done_iff.mp h).2⟩
  | cons a rest ih =>
    obtain ⟨_, _, _, -, -, hrest⟩ := runs_carryOut_cons_iff.mp h
    exact ih hrest

end CleanupReport

/-- A run that cleans up, after its phases: it carries out their undoings and concludes. -/
theorem Scenario.runs_run_of_phases {options : ScenarioOptions}
    (hskip : options.skipCleanup = false) {phases teardown : PlaneTrace}
    {ending : Outcome (Except Error PhasesOutcome)} {q : Progress}
    {o : Outcome (Except ScenarioFailure ScenarioOutcome)}
    (hphases : (Phased.track (Phases.all options).run {}).Runs phases (.returned (ending, q))) :
    (run options).Runs (phases ++ teardown) o ↔ ∃ cleanup,
      (CleanupReport.carryOut (q.undos.reverse.map Undo.action) {}).Runs teardown (.returned cleanup) ∧
      o = .returned (conclude options.name q.phase (phasesResult q.phase ending) cleanup) := by
  rw [run_eq hskip, hphases.bind_iff]
  constructor
  · intro h
    rcases Program.runs_bind_iff.mp h with ⟨teardown, cleanup, t, rfl, hteardown, hend⟩ | ⟨_, h, -⟩
    · obtain ⟨rfl, rfl⟩ := Program.runs_done_iff.mp hend
      rw [List.append_nil]
      exact ⟨cleanup, hteardown, rfl⟩
    · obtain ⟨_, ho⟩ := CleanupReport.returned_of_runs_carryOut h
      cases ho
  · rintro ⟨cleanup, hteardown, rfl⟩
    exact Program.runs_bind_iff.mpr
      (.inl ⟨teardown, cleanup, [], (List.append_nil _).symm, hteardown, .done _⟩)

/-- A run that cleans up, taken apart: the phases, the teardown of what they registered, and the
conclusion, which is always reached. -/
theorem Scenario.runs_run {options : ScenarioOptions} (hskip : options.skipCleanup = false)
    {t : PlaneTrace} {o : Outcome (Except ScenarioFailure ScenarioOutcome)}
    (h : (run options).Runs t o) :
    ∃ phases ending q teardown cleanup, t = phases ++ teardown ∧
      (Phased.track (Phases.all options).run {}).Runs phases (.returned (ending, q)) ∧
      (CleanupReport.carryOut (q.undos.reverse.map Undo.action) {}).Runs teardown
        (.returned cleanup) ∧
      o = .returned (conclude options.name q.phase (phasesResult q.phase ending) cleanup) := by
  have hparts := h
  rw [run_eq hskip] at hparts
  rcases Program.runs_bind_iff.mp hparts with ⟨phases, ⟨ending, q⟩, teardown, rfl, hphases, -⟩ |
    ⟨_, hphases, -⟩
  · obtain ⟨cleanup, hteardown, rfl⟩ := (runs_run_of_phases hskip hphases).mp h
    exact ⟨phases, ending, q, teardown, cleanup, rfl, hphases, hteardown, rfl⟩
  · obtain ⟨_, _, ho⟩ := Phased.exists_of_runs_track hphases
    cases ho

/-- A teardown pass comes back, whether it runs the actions or not. -/
theorem Progress.returned_of_runs_runAll {q : Progress} {skip : Bool} {t : PlaneTrace}
    {o : Outcome (CleanupReport × Registry planeInterface.timed)}
    (h : (q.registry.runAll skip).Runs t o) : ∃ cleanup registry, o = .returned (cleanup, registry) := by
  cases skip with
  | true =>
    obtain ⟨-, rfl⟩ := Program.runs_done_iff.mp h
    exact ⟨_, _, rfl⟩
  | false =>
    rw [registry_eq, Registry.runAll_ofPrograms] at h
    rcases Program.runs_bind_iff.mp h with ⟨_, cleanup, _, rfl, -, h⟩ | ⟨_, h, -⟩
    · exact ⟨cleanup, _, (Program.runs_done_iff.mp h).2⟩
    · obtain ⟨_, ho⟩ := CleanupReport.returned_of_runs_carryOut h
      cases ho

/-- Every run, taken apart: the phases, a teardown pass, and the conclusion, which is always
reached. -/
theorem Scenario.exists_of_runs_run {options : ScenarioOptions} {t : PlaneTrace}
    {o : Outcome (Except ScenarioFailure ScenarioOutcome)} (h : (run options).Runs t o) :
    ∃ phases ending q teardown cleanup registry, t = phases ++ teardown ∧
      (Phased.track (Phases.all options).run {}).Runs phases (.returned (ending, q)) ∧
      (q.registry.runAll options.skipCleanup).Runs teardown (.returned (cleanup, registry)) ∧
      o = .returned (conclude options.name q.phase (phasesResult q.phase ending) cleanup) := by
  rcases Program.runs_bind_iff.mp h with ⟨phases, ⟨ending, q⟩, t₂, rfl, h₁, h₂⟩ | ⟨_, h₁, -⟩
  · rcases Program.runs_bind_iff.mp h₂ with ⟨teardown, ⟨cleanup, registry⟩, t₃, rfl, h₃, h₄⟩ |
      ⟨_, h₃, -⟩
    · obtain ⟨rfl, rfl⟩ := Program.runs_done_iff.mp h₄
      rw [List.append_nil]
      exact ⟨phases, ending, q, teardown, cleanup, registry, rfl, h₁, h₃, rfl⟩
    · obtain ⟨_, _, ho⟩ := Progress.returned_of_runs_runAll h₃
      cases ho
  · obtain ⟨_, _, ho⟩ := Phased.exists_of_runs_track h₁
    cases ho

/-! ## One undoing -/

/-- Whether a deletion left nothing behind: it deleted, or there was nothing to delete. -/
def isGone : Attempted Unit → Bool
  | .returned (.ok ()) => true
  | .returned (.error e) => e.isNotFound
  | .panicked _ => false

namespace Undo

/-- How often conflicts can make an undoing pause. -/
def pauses : Undo → Nat
  | .unlabelPool .. | .unlabelNode .. => 4
  | .delete .. | .deleteNode .. => 0

/-- How many calls an undoing makes at most. -/
def calls : Undo → Nat
  | .unlabelPool .. | .unlabelNode .. => 10
  | .delete .. => 1
  | .deleteNode .. => 2

/-- What one attempt at an undoing asks: the call or the calls of a deletion, or an update that takes
the label off. -/
inductive Performed : Undo → PlaneTrace → Prop where
  | delete (kind : Kind) (name : String) (reply : Attempted Unit) :
      Performed (.delete kind name) [⟨.call (.store kind (.delete name)), reply⟩]
  | unlabelPool {name label : String} {s : StoreTrace Pool}
      {o : Outcome (Except Error (Versioned Pool))}
      (h : (mutate name .forConflicts fun pool : Pool => .returned (removeLabel label pool)).Runs
        s o) : Performed (.unlabelPool name label) (s.map (Event.onPlane .pool))
  | unlabelNode {name label : String} {s : StoreTrace Node}
      {o : Outcome (Except Error (Versioned Node))}
      (h : (mutate name .forConflicts fun node : Node => .returned (removeLabel label node)).Runs
        s o) : Performed (.unlabelNode name label) (s.map (Event.onPlane .node))
  /-- The machine stays: there is none, or the node may still be there. -/
  | nodeOnly (name : String) (machine : Option String) (reply : Attempted Unit)
      (h : machine = none ∨ isGone reply = false) :
      Performed (.deleteNode name machine) [⟨.call (.store .node (.delete name)), reply⟩]
  | nodeAndMachine (name machine : String) (reply reply' : Attempted Unit) (h : isGone reply = true) :
      Performed (.deleteNode name (some machine))
        [⟨.call (.store .node (.delete name)), reply⟩,
          ⟨.call (.store .machine (.delete machine)), reply'⟩]

/-- Deleting what was created is one call, and its reply is the result. -/
theorem runs_program_delete_iff {kind : Kind} {name : String} {t : PlaneTrace}
    {o : Attempted Unit} :
    (program (.delete kind name)).Runs t o ↔ t = [⟨.call (.store kind (.delete name)), o⟩] := by
  constructor
  · intro h
    obtain ⟨reply, t', rfl, hrest⟩ := Program.runs_ask_iff.mp h
    obtain ⟨rfl, rfl⟩ := Program.runs_ofOutcome_iff.mp hrest
    rfl
  · rintro rfl
    exact Program.runs_ask_iff.mpr ⟨o, [], rfl, Program.runs_ofOutcome_iff.mpr ⟨rfl, rfl⟩⟩

theorem runs_deleteIfPresent {kind : Kind} {name : String} {t : PlaneTrace} {o : Attempted Unit}
    (h : (deleteIfPresent kind name).Runs t o) :
    ∃ reply, t = [⟨.call (.store kind (.delete name)), reply⟩] ∧
      (isGone reply = true ↔ o = .returned (.ok ())) := by
  obtain ⟨reply, t', rfl, hrest⟩ := Program.runs_ask_iff.mp h
  rcases reply with (e | ⟨⟩) | payload
  · obtain ⟨rfl, rfl⟩ := Program.runs_done_iff.mp hrest
    refine ⟨.returned (.error e), rfl, ?_⟩
    simp [isGone, ignoringNotFound]
  · obtain ⟨rfl, rfl⟩ := Program.runs_done_iff.mp hrest
    exact ⟨.returned (.ok ()), rfl, by simp [isGone, ignoringNotFound]⟩
  · obtain ⟨rfl, rfl⟩ := Program.runs_panic_iff.mp hrest
    exact ⟨.panicked payload, rfl, by simp [isGone]⟩

/-- How taking off a label ends, from how the update ended. -/
def unlabelled {T : Type} : Outcome (Except Error (Versioned T)) → Attempted Unit
  | .returned result => .returned (result.map fun _ => ())
  | .panicked payload => .panicked payload

theorem runs_unlabel_iff {kind : Kind} [Labelled kind.Model] {name label : String} {t : PlaneTrace}
    {o : Attempted Unit} : (unlabel kind name label).Runs t o ↔
      ∃ s o', (mutate name .forConflicts fun object : kind.Model =>
        .returned (removeLabel label object)).Runs s o' ∧ t = s.map (Event.onPlane kind) ∧
        o = unlabelled o' := by
  rw [unlabel, Program.runs_bind_iff]
  constructor
  · rintro (⟨t₁, result, t₂, rfl, h₁, h₂⟩ | ⟨payload, h₁, rfl⟩)
    · obtain ⟨rfl, rfl⟩ := Program.runs_done_iff.mp h₂
      obtain ⟨s, hs, rfl⟩ := runs_onStore_iff.mp h₁
      exact ⟨s, _, hs, List.append_nil _, rfl⟩
    · obtain ⟨s, hs, rfl⟩ := runs_onStore_iff.mp h₁
      exact ⟨s, _, hs, rfl, rfl⟩
  · rintro ⟨s, o', hs, rfl, rfl⟩
    have h₁ := runs_onStore_iff.mpr ⟨s, hs, rfl⟩
    cases o' with
    | returned result => exact .inl ⟨_, result, [], (List.append_nil _).symm, h₁, .done _⟩
    | panicked payload => exact .inr ⟨payload, h₁, rfl⟩

/-- Taking off a label is one update, and goes well if the update does. -/
theorem runs_unlabel {kind : Kind} [Labelled kind.Model] {name label : String} {t : PlaneTrace}
    {o : Attempted Unit} (h : (unlabel kind name label).Runs t o) :
    ∃ s o', (mutate name .forConflicts fun object : kind.Model =>
      .returned (removeLabel label object)).Runs s o' ∧ t = s.map (Event.onPlane kind) ∧
      (o = .returned (.ok ()) → ∃ v, o' = .returned (.ok v)) := by
  obtain ⟨s, o', hs, ht, rfl⟩ := runs_unlabel_iff.mp h
  refine ⟨s, o', hs, ht, ?_⟩
  rcases o' with (e | v) | payload
  · exact fun h => by cases h
  · exact fun _ => ⟨v, rfl⟩
  · exact fun h => by cases h

/-- Carrying out an undoing performs it, whatever the replies are. -/
theorem performed_of_runs {undo : Undo} {t : PlaneTrace} {o : Attempted Unit}
    (h : undo.program.Runs t o) : Performed undo t := by
  cases undo with
  | delete kind name =>
    rw [runs_program_delete_iff] at h
    rw [h]
    exact .delete kind name o
  | unlabelPool name label =>
    obtain ⟨s, _, hs, rfl, -⟩ := runs_unlabel h
    exact .unlabelPool hs
  | unlabelNode name label =>
    obtain ⟨s, _, hs, rfl, -⟩ := runs_unlabel h
    exact .unlabelNode hs
  | deleteNode name machine =>
    rcases Program.runs_bind_iff.mp h with ⟨t₁, result, t₂, rfl, h₁, h₂⟩ | ⟨payload, h₁, rfl⟩
    · obtain ⟨reply, rfl, hgone⟩ := runs_deleteIfPresent h₁
      -- the machine is only asked for once the node is gone
      rcases result with e | ⟨⟩
      · obtain ⟨rfl, -⟩ := Program.runs_done_iff.mp h₂
        exact .nodeOnly name machine reply (.inr (by simpa using hgone))
      · have hgone : isGone reply = true := hgone.mpr rfl
        cases machine with
        | none =>
          obtain ⟨rfl, -⟩ := Program.runs_done_iff.mp h₂
          exact .nodeOnly name none reply (.inl rfl)
        | some machine =>
          obtain ⟨reply', rfl, -⟩ := runs_deleteIfPresent h₂
          exact .nodeAndMachine name machine reply reply' hgone
    · obtain ⟨reply, rfl, hgone⟩ := runs_deleteIfPresent h₁
      exact .nodeOnly name machine reply (.inr (by simpa using hgone))

end Undo

/-! ## Rehearsed runs -/

namespace Scenario

/-- The answers of the cluster to all questions. -/
abbrev replies : (query : planeInterface.timed.Query) → World Rehearsal.Cluster →
    planeInterface.timed.Reply query × World Rehearsal.Cluster :=
  World.reply Rehearsal.Cluster.serve

/-- A cluster whose controllers do all that a build needs at the first look. It has one node, which
runs the image that will be built. -/
def oneWorker (labels : StringMap String) : Rehearsal.Cluster where
  secrets := { memory := .ofList [{ name := "builder-dockercfg-x" }] }
  imageRepositories :=
    { memory :=
        { reconciler := some (Rehearsal.reconciler .imageRepository
            [{ script := [[.repository (some "registry/os-image")]], repeatLast := true }]) } }
  pools :=
    { memory :=
        { reconciler := some (Rehearsal.reconciler .pool
            [{ script :=
                [[.rendered (some { name := "rendered-layered-1", sources := ["00-worker"] }),
                  .state (some "Succeeded"), .image (some "registry/os-image@sha256:1")]]
               repeatLast := true }]) } }
  nodes :=
    { memory := .ofList [{ name := "worker-0", labels, image := some "registry/os-image@sha256:1" }] }
  executor := .scripted []

/-- A cluster with one node, which has a machine. Updates of the node meet so many competing writes, one after
each read. -/
def contestedWorker (foreignWrites : Nat) : Rehearsal.Cluster :=
  { oneWorker ∅ with
    nodes :=
      { memory :=
          { MemoryStore.ofList [{ name := "worker-0", machine := some "machine-0"
                                  image := some "registry/os-image@sha256:1" }] with
            foreignWrites } }
    machines := { memory := .ofList [{ name := "machine-0" }] } }

/-- A run that rolls the image out to that node and deletes the node in the end. -/
def deletesWorker : ScenarioOptions where
  name := "demo"
  builderType := .openshiftImageBuilder
  rollout := some { verifyCommand := ["true"] }
  targetNodes := ["worker-0"]

end Scenario

end BuildTrial
