import BuildTrial.Cli.Execution
import BuildTrial.Proofs.Retry.Course
import BuildTrial.Proofs.Suite.Selection

/-!
# What a run is prepared with

Before a command connects to a cluster it settles what is to be run: the suite has to be valid, every
name that is asked for has to be in it, something has to be selected, and each selected scenario has to be
valid once its settings are overridden (`RunArguments.Ready`). `RunArguments.Fault` says which error it is
if one of these fails: the first one, and there the first scenario or name at fault. `run_exact` is about
every way that the command may go on once it has its suite.
-/

namespace BuildTrial.Cli

/-- The suite that a command has, and how it came by it: nothing is asked for the built-in one, and
otherwise a file is read and its text holds the suite. -/
inductive Decoded : Option String → Suite → Trace shellInterface.timed → Prop where
  | builtIn : Decoded none ⟨Catalog.all⟩ []
  | file {path text : String} {bytes : List UInt8} {s : Suite} (htext : Text.ofUtf8 bytes = .ok text)
      (hsuite : Yaml.suite? text = some s) :
      Decoded (some path) s [⟨.call (.read path), .ok bytes⟩]

namespace RunArguments

variable {arguments : RunArguments} {s : Suite} {e : CommandError}

/-- The scenarios of a run: those that are selected, with their settings overridden. -/
def scheduled (arguments : RunArguments) (s : Suite) : List ScenarioOptions :=
  (s.chosen arguments.scenarios).map arguments.overrides.apply

structure Ready (arguments : RunArguments) (s : Suite) : Prop where
  valid : s.validate = .ok ()
  known : ∀ name ∈ arguments.scenarios, s.Has name
  nonempty : s.chosen arguments.scenarios ≠ []
  scheduled : ∀ o ∈ arguments.scheduled s, o.validate = .ok ()

/-- The error that keeps a run from being prepared. Each is about the first that is at fault, and is
possible only where there is no reason for those above it. -/
inductive Fault (arguments : RunArguments) (s : Suite) : CommandError → Prop where
  | suite {e : Error} (h : s.validate = .error e) : Fault arguments s (.trial e)
  | unknown {before after : List String} {name : String} (hvalid : s.validate = .ok ())
      (hnames : arguments.scenarios = before ++ name :: after)
      (hbefore : ∀ earlier ∈ before, s.Has earlier) (hname : ¬s.Has name) :
      Fault arguments s (.unknownScenario (s.unknown name))
  | nothing (hvalid : s.validate = .ok ()) (hknown : ∀ name ∈ arguments.scenarios, s.Has name)
      (hnone : s.chosen arguments.scenarios = []) : Fault arguments s .nothingToRun
  | scenario {before after : List ScenarioOptions} {o : ScenarioOptions} {e : Error}
      (hvalid : s.validate = .ok ()) (hknown : ∀ name ∈ arguments.scenarios, s.Has name)
      (hscheduled : arguments.scheduled s = before ++ o :: after)
      (hbefore : ∀ earlier ∈ before, earlier.validate = .ok ()) (ho : o.validate = .error e) :
      Fault arguments s (.trial e)

theorem exists_fault_of_not_ready (h : ¬arguments.Ready s) : ∃ e, arguments.Fault s e := by
  cases hvalid : s.validate with
  | error e => exact ⟨_, .suite hvalid⟩
  | ok _ =>
    by_cases hknown : ∀ name ∈ arguments.scenarios, s.Has name
    · by_cases hnone : s.chosen arguments.scenarios = []
      · exact ⟨_, .nothing hvalid hknown hnone⟩
      · have hinvalid : ¬∀ o ∈ arguments.scheduled s, o.validate = .ok () :=
          fun hscheduled => h ⟨hvalid, hknown, hnone, hscheduled⟩
        obtain ⟨before, o, after, hsplit, hbefore, ho⟩ := exists_first_not hinvalid
        cases he : o.validate with
        | ok _ => exact absurd he ho
        | error e => exact ⟨_, .scenario hvalid hknown hsplit hbefore he⟩
    · obtain ⟨before, name, after, hsplit, hbefore, hname⟩ := exists_first_not hknown
      exact ⟨_, .unknown hvalid hsplit hbefore hname⟩

/-! ## How it is settled -/

theorem forM_validate_of_valid {scenarios : List ScenarioOptions}
    (h : ∀ o ∈ scenarios, o.validate = .ok ()) : scenarios.forM ScenarioOptions.validate = .ok () := by
  induction scenarios with
  | nil => rfl
  | cons o scenarios ih =>
    obtain ⟨ho, hscenarios⟩ := List.forall_mem_cons.mp h
    rw [List.forM_eq_forM, List.forM_cons, ho]
    exact ih hscenarios

theorem forM_validate_of_invalid {before after : List ScenarioOptions} {o : ScenarioOptions} {e : Error}
    (hbefore : ∀ earlier ∈ before, earlier.validate = .ok ()) (ho : o.validate = .error e) :
    (before ++ o :: after).forM ScenarioOptions.validate = .error e := by
  rw [List.forM_eq_forM, List.forM_append, ← List.forM_eq_forM, forM_validate_of_valid hbefore,
    List.forM_eq_forM, List.forM_cons, ho]
  rfl

/-- What a run comes to out of a suite that is not checked yet. -/
def prepare (arguments : RunArguments) (s : Suite) : Except CommandError (List ScenarioOptions) :=
  ((s.checked.mapError .trial).map (·.scenarios)).bind arguments.plan

theorem prepare_of_valid (h : s.validate = .ok ()) :
    arguments.prepare s = arguments.plan s.scenarios := by
  rw [prepare, Suite.checked, h]
  rfl

/-- What is left to settle once the scenarios are selected. -/
theorem plan_of_known (h : ∀ name ∈ arguments.scenarios, s.Has name) :
    arguments.plan s.scenarios =
      if (arguments.scheduled s).isEmpty then .error .nothingToRun
      else (((arguments.scheduled s).forM ScenarioOptions.validate).mapError .trial).bind
        fun _ => .ok (arguments.scheduled s) := by
  rw [plan, Suite.select_of_known h]
  change (if (arguments.scheduled s).isEmpty then _ else _) = _
  split <;> rfl

theorem scheduled_isEmpty : (arguments.scheduled s).isEmpty = (s.chosen arguments.scenarios).isEmpty := by
  rw [scheduled, List.isEmpty_map]

theorem prepare_of_ready (h : arguments.Ready s) : arguments.prepare s = .ok (arguments.scheduled s) := by
  have hnonempty : ¬(arguments.scheduled s).isEmpty := by
    rw [scheduled_isEmpty, List.isEmpty_iff]
    exact h.nonempty
  rw [prepare_of_valid h.valid, plan_of_known h.known, if_neg hnonempty,
    forM_validate_of_valid h.scheduled]
  rfl

theorem prepare_of_fault (h : arguments.Fault s e) : arguments.prepare s = .error e := by
  cases h with
  | suite hinvalid =>
    rw [prepare, Suite.checked, hinvalid]
    rfl
  | unknown hvalid hnames hbefore hname =>
    rw [prepare_of_valid hvalid, plan, hnames, Suite.select_of_unknown hbefore hname]
    rfl
  | nothing hvalid hknown hnone =>
    have hempty : (arguments.scheduled s).isEmpty := by
      rw [scheduled_isEmpty, List.isEmpty_iff]
      exact hnone
    rw [prepare_of_valid hvalid, plan_of_known hknown, if_pos hempty]
  | scenario hvalid hknown hscheduled hbefore ho =>
    have hnonempty : ¬(arguments.scheduled s).isEmpty := by
      rw [hscheduled]
      simp
    rw [prepare_of_valid hvalid, plan_of_known hknown, if_neg hnonempty, hscheduled,
      forM_validate_of_invalid hbefore ho]
    rfl

end RunArguments

/-! ## The command -/

variable {arguments : RunArguments} {kubeconfig : Option String} {s : Suite}
  {opening t : Trace shellInterface.timed} {o : Outcome (Except CommandError (List ScenarioOptions))}

/-- How a command ends that hands scenarios over as soon as it has a connection. -/
def handedOver (scenarios : List ScenarioOptions) :
    Outcome (Except Error Unit) → Outcome (Except CommandError (List ScenarioOptions))
  | .returned (.ok ()) => .returned (.ok scenarios)
  | .returned (.error e) => .returned (.error (.trial e))
  | .panicked payload => .panicked payload

/-- The command once it is settled what is to be run. -/
def handOver (kubeconfig : Option String) :
    Except CommandError (List ScenarioOptions) → ShellProgram (Except CommandError (List ScenarioOptions))
  | .error e => .done (.error e)
  | .ok scenarios => (connect kubeconfig).bind fun
    | .error e => .done (.error (.trial e))
    | .ok () => .done (.ok scenarios)

theorem runs_handOver_ok {scenarios : List ScenarioOptions} :
    (handOver kubeconfig (.ok scenarios)).Runs t o ↔
      ∃ made, (connect kubeconfig).Runs t made ∧ o = handedOver scenarios made := by
  rw [handOver, Program.runs_bind_iff]
  constructor
  · rintro (⟨t, answer, rest, rfl, hconnect, hrest⟩ | ⟨payload, hconnect, rfl⟩)
    · refine ⟨.returned answer, ?_, ?_⟩
      · cases answer <;> simpa [(Program.runs_done_iff.mp hrest).1] using hconnect
      · cases answer <;> exact (Program.runs_done_iff.mp hrest).2
    · exact ⟨.panicked payload, hconnect, rfl⟩
  · rintro ⟨made, hconnect, rfl⟩
    cases made with
    | returned answer =>
      refine .inl ⟨t, answer, [], (List.append_nil t).symm, hconnect, ?_⟩
      cases answer <;> exact .done _
    | panicked payload => exact .inr ⟨payload, hconnect, rfl⟩

theorem runs_load {path text : String} {bytes : List UInt8} (htext : Text.ofUtf8 bytes = .ok text)
    (hsuite : Yaml.suite? text = some s) :
    (Suite.load path).Runs [⟨.call (.read path), .ok bytes⟩]
      (.returned (s.checked.mapError .trial)) := by
  have hread : (ShellProgram.readText path).Runs [⟨.call (.read path), .ok bytes⟩]
      (.returned (.ok text)) := by
    have hbytes : (.ok text : Except FileFault String) =
        (Text.ofUtf8 bytes).mapError fun _ => .notText := by
      rw [htext]
      rfl
    rw [hbytes]
    exact Program.runs_ask_iff.mpr ⟨.ok bytes, [], rfl, .done _⟩
  have hfile : Suite.ofFile path text = s.checked.mapError .trial := by
    rw [Suite.ofFile, hsuite]
  rw [← hfile]
  exact hread.bind_iff (u := []).mpr (.done _)

theorem runs_of_decoded (h : Decoded arguments.config s opening) :
    (run arguments).Runs (opening ++ t) o ↔
      (handOver arguments.kubeconfig (arguments.prepare s)).Runs t o := by
  have havailable : (Suite.available arguments.config).Runs opening
      (.returned ((s.checked.mapError .trial).map (·.scenarios))) := by
    generalize arguments.config = config at h
    cases h with
    | builtIn => exact .done _
    | file htext hsuite => exact (runs_load htext hsuite).bind_iff (u := []).mpr (.done _)
  refine havailable.bind_iff.trans ?_
  change Program.Runs (match arguments.prepare s with | .error e => _ | .ok scenarios => _) t o ↔ _
  cases arguments.prepare s with
  | error e => exact Iff.rfl
  | ok scenarios => exact Iff.rfl

theorem connect_asks (kubeconfig : Option String) : ∃ query next, connect kubeconfig = .ask query next := by
  rw [connect, retry, show countLimit = countLimit - 1 + 1 from rfl, Retry.attemptFrom_succ]
  cases kubeconfig with
  | none => exact ⟨_, _, rfl⟩
  | some path => exact ⟨_, _, rfl⟩

/-- What comes after the suite is known: scenarios that are ready are handed over as soon as there is a
connection, each name standing for the first scenario that bears it. Otherwise there is a fault, and
nothing more is asked. So an attempt to connect means that all is ready. -/
theorem run_exact (h : Decoded arguments.config s opening) :
    (∀ t o, (run arguments).Runs (opening ++ t) o →
      ((∃ made, (connect arguments.kubeconfig).Runs t made) ↔ arguments.Ready s)) ∧
    (arguments.Ready s →
      (arguments.scenarios = [] → s.chosen arguments.scenarios = s.scenarios) ∧
      (arguments.scenarios ≠ [] →
        List.Forall₂ s.First arguments.scenarios (s.chosen arguments.scenarios)) ∧
      ∀ t o, (run arguments).Runs (opening ++ t) o ↔
        ∃ made, (connect arguments.kubeconfig).Runs t made ∧
          o = handedOver ((s.chosen arguments.scenarios).map arguments.overrides.apply) made) ∧
    (¬arguments.Ready s → ∃ e, arguments.Fault s e) ∧
    ∀ e, arguments.Fault s e → ∀ t o,
      (run arguments).Runs (opening ++ t) o ↔ t = [] ∧ o = .returned (.error e) := by
  have hfault : ∀ e, arguments.Fault s e → ∀ t o,
      (run arguments).Runs (opening ++ t) o ↔ t = [] ∧ o = .returned (.error e) := by
    intro e he t o
    rw [runs_of_decoded h, RunArguments.prepare_of_fault he]
    exact Program.runs_done_iff
  have hready : arguments.Ready s → ∀ t o, (run arguments).Runs (opening ++ t) o ↔
      ∃ made, (connect arguments.kubeconfig).Runs t made ∧ o = handedOver (arguments.scheduled s) made := by
    intro hready t o
    rw [runs_of_decoded h, RunArguments.prepare_of_ready hready]
    exact runs_handOver_ok
  refine ⟨fun t o hruns => ⟨?_, ?_⟩, fun hall => ⟨?_, ?_, hready hall⟩,
    RunArguments.exists_fault_of_not_ready, hfault⟩
  · rintro ⟨made, hconnect⟩
    by_contra hnot
    obtain ⟨e, he⟩ := RunArguments.exists_fault_of_not_ready hnot
    obtain ⟨rfl, -⟩ := (hfault e he t o).mp hruns
    obtain ⟨query, next, hasks⟩ := connect_asks arguments.kubeconfig
    rw [hasks] at hconnect
    cases hconnect
  · intro hall
    obtain ⟨made, hconnect, -⟩ := (hready hall t o).mp hruns
    exact ⟨made, hconnect⟩
  · intro hnames
    rw [hnames]
    rfl
  · exact Suite.forall₂_chosen hall.known

def twoScenariosText : String :=
  "scenarios:\n- name: a\n  builderType: custom-pod-builder\n" ++
    "- name: b\n  builderType: custom-pod-builder\n"

def twoScenarios : Suite :=
  ⟨[{ name := "a", builderType := .customPodBuilder }, { name := "b", builderType := .customPodBuilder }]⟩

def twoScenariosRead : Trace shellInterface.timed :=
  [⟨.call (.read "two.yaml"), .ok (Text.utf8Bytes twoScenariosText)⟩]

theorem decoded_twoScenarios : Decoded (some "two.yaml") twoScenarios twoScenariosRead := by
  have hread : (Text.ofUtf8 (Text.utf8Bytes twoScenariosText)).toOption = some twoScenariosText := by
    decide +kernel
  have hsuite : Yaml.suite? twoScenariosText = some twoScenarios := by decide +kernel
  cases htext : Text.ofUtf8 (Text.utf8Bytes twoScenariosText) with
  | error fault =>
    rw [htext] at hread
    cases hread
  | ok text =>
    rw [htext] at hread
    obtain rfl := Option.some.inj hread
    exact .file htext hsuite

/-- One of the scenarios in the given pool. -/
def scenarioIn (pool name : String) : ScenarioOptions :=
  { name, builderType := .customPodBuilder, poolName := pool }

/-- Both scenarios of the suite in the given pool, one of them twice. -/
def threeRuns (pool : String) : RunArguments :=
  { scenarios := ["b", "a", "b"], config := some "two.yaml", overrides := { pool := some pool } }

theorem scheduled_threeRuns (pool : String) : (threeRuns pool).scheduled twoScenarios =
    [scenarioIn pool "b", scenarioIn pool "a", scenarioIn pool "b"] := rfl

/-- A name that is given twice stands for two runs. A pool without a name is found out before there is an
attempt to connect. -/
theorem run_exact_repeated :
    (∀ t o, (run (threeRuns "infra")).Runs (twoScenariosRead ++ t) o ↔
      ∃ made, (connect none).Runs t made ∧
        o = handedOver [scenarioIn "infra" "b", scenarioIn "infra" "a", scenarioIn "infra" "b"] made) ∧
    ∀ t o, (run (threeRuns " ")).Runs (twoScenariosRead ++ t) o ↔
      t = [] ∧ o = .returned (.error (.trial (.invalid "poolName" "pool name is empty"))) := by
  have hdecoded : ∀ pool, Decoded (threeRuns pool).config twoScenarios twoScenariosRead :=
    fun _ => decoded_twoScenarios
  have hknown : ∀ name ∈ ["b", "a", "b"], twoScenarios.Has name := by
    simp [Suite.Has, twoScenarios]
  have hready : (threeRuns "infra").Ready twoScenarios := by
    refine ⟨rfl, hknown, by decide, ?_⟩
    rw [scheduled_threeRuns]
    intro o ho
    simp only [List.mem_cons, List.not_mem_nil, or_false] at ho
    rcases ho with rfl | rfl | rfl <;> rfl
  have hfault : (threeRuns " ").Fault twoScenarios
      (.trial (.invalid "poolName" "pool name is empty")) := by
    have hfirst : (threeRuns " ").scheduled twoScenarios =
        [] ++ scenarioIn " " "b" :: [scenarioIn " " "a", scenarioIn " " "b"] := rfl
    exact .scenario rfl hknown hfirst (by simp) rfl
  constructor
  · obtain ⟨-, hrun, -⟩ := run_exact (hdecoded "infra")
    exact (hrun hready).2.2
  · obtain ⟨-, -, -, hrun⟩ := run_exact (hdecoded " ")
    exact hrun _ hfault

end BuildTrial.Cli
