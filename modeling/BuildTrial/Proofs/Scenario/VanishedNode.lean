import BuildTrial.Proofs.Scenario.NodeLabels

/-!
# A node that is gone before it is deleted

A node may be gone by the time that a run wants to delete it, and so may its machine; to delete either is
content with that. But the label of the pool is registered after the deletion, so it is taken off first,
and this is not content: it reads the node, finds none, and fails. A run whose phases passed therefore
fails in its teardown over a node that vanished by itself, and passes over one that vanishes between the
two (`run_of_vanishedNode`).
-/

namespace BuildTrial

namespace Event

/-- The call of the event, if it is one, succeeds. -/
def succeeds : PlaneEvent → Bool
  | ⟨.call _, .returned (.ok _)⟩ => true
  | ⟨.call _, _⟩ => false
  | _ => true

/-- The call of the event, if it is one, finds nothing that goes by its name. -/
def findsNothing : PlaneEvent → Bool
  | ⟨.call _, .returned (.error e)⟩ => e.isNotFound
  | ⟨.call _, _⟩ => false
  | _ => true

/-- Besides success, a deletion may come back with there being nothing to delete. -/
def Content (kind : Kind) (e : PlaneEvent) : Prop :=
  e.succeeds = true ∨ e.findsNothing = true ∧ ∃ name, e.deleting? = some (kind, name)

end Event

/-! ## Taking off a label -/

section

variable {kind : Kind} {name : String} {config : RetryConfig} {change : kind.Model → kind.Model}
  {s : StoreTrace kind.Model} {o : Outcome (Except Error (Versioned kind.Model))}

/-- An update begins with a read. -/
theorem exists_of_runs_mutate
    (h : (mutate name config fun object => .returned (change object)).Runs s o) :
    ∃ reply rest, s = ⟨.call (.get name), reply⟩ :: rest ∧ ((Program.ofOutcome reply).bind
      (Mutate.afterRead name config (fun object => .returned (change object)) (countLimit - 1) 1
        (.ofConfig config))).Runs rest o := by
  -- the limit is a numeral, which the recursion on what is left does not match
  rw [mutate, show countLimit = countLimit - 1 + 1 from rfl, Mutate.cycleFrom_succ] at h
  exact Program.runs_ask_iff.mp h

/-- An update whose calls succeed is over after one cycle. -/
theorem mutate_ok_of_succeeds
    (h : (mutate name config fun object => .returned (change object)).Runs s o)
    (hok : ∀ e ∈ s, (Event.onPlane kind e).succeeds = true) : ∃ v, o = .returned (.ok v) := by
  obtain ⟨reply, s, rfl, hread⟩ := exists_of_runs_mutate h
  obtain ⟨hget, hrest⟩ := List.forall_mem_cons.mp hok
  rcases reply with (e | current) | payload
  · cases hget
  · obtain ⟨reply, s, rfl, hwrite⟩ := Program.runs_ask_iff.mp hread
    obtain ⟨hupdate, -⟩ := List.forall_mem_cons.mp hrest
    rcases reply with (e | v) | payload
    · cases hupdate
    · exact ⟨v, (Program.runs_done_iff.mp hwrite).2⟩
    · cases hupdate
  · cases hget

/-- An update of what is not there fails with its first read. -/
theorem mutate_error_of_findsNothing
    (h : (mutate name config fun object => .returned (change object)).Runs s o)
    (hgone : ∀ e ∈ s, (Event.onPlane kind e).findsNothing = true) :
    ∃ gone, gone.isNotFound = true ∧ o = .returned (.error gone) := by
  obtain ⟨reply, s, rfl, hread⟩ := exists_of_runs_mutate h
  obtain ⟨hget, -⟩ := List.forall_mem_cons.mp hgone
  rcases reply with (gone | current) | payload
  · exact ⟨gone, hget, (Program.runs_done_iff.mp hread).2⟩
  · cases hget
  · cases hget

end

namespace Undo

variable {k : Kind} {name label : String} {machine : Option String} {t : PlaneTrace}
  {o : Attempted Unit}

theorem unlabel_ok_of_succeeds [Labelled k.Model] (h : (unlabel k name label).Runs t o)
    (hok : ∀ e ∈ t, e.succeeds = true) : o = .returned (.ok ()) := by
  obtain ⟨s, o', hs, rfl, rfl⟩ := runs_unlabel_iff.mp h
  obtain ⟨v, rfl⟩ := mutate_ok_of_succeeds hs (List.forall_mem_map.mp hok)
  rfl

theorem unlabel_error_of_findsNothing [Labelled k.Model] (h : (unlabel k name label).Runs t o)
    (hgone : ∀ e ∈ t, e.findsNothing = true) :
    ∃ gone, gone.isNotFound = true ∧ o = .returned (.error gone) := by
  obtain ⟨s, o', hs, rfl, rfl⟩ := runs_unlabel_iff.mp h
  obtain ⟨gone, hnone, rfl⟩ := mutate_error_of_findsNothing hs (List.forall_mem_map.mp hgone)
  exact ⟨gone, hnone, rfl⟩

/-! ## Deleting the node and its machine -/

theorem deleteIfPresent_ok (h : (deleteIfPresent k name).Runs t o)
    (hcontent : ∀ e ∈ t, e.succeeds = true ∨ e.findsNothing = true) : o = .returned (.ok ()) := by
  obtain ⟨reply, rfl, hgone⟩ := runs_deleteIfPresent h
  apply hgone.mp
  rcases List.forall_mem_singleton.mp hcontent with hok | hnone
  · rcases reply with (e | ⟨⟩) | payload
    · cases hok
    · rfl
    · cases hok
  · rcases reply with (e | ⟨⟩) | payload
    · exact hnone
    · rfl
    · cases hnone

theorem deleteNode_ok (h : (program (.deleteNode name machine)).Runs t o)
    (hcontent : ∀ e ∈ t, e.succeeds = true ∨ e.findsNothing = true) : o = .returned (.ok ()) := by
  rcases Program.runs_bind_iff.mp h with ⟨t₁, result, t₂, rfl, h₁, h₂⟩ | ⟨payload, h₁, -⟩
  · obtain ⟨hnode, hmachine⟩ := List.forall_mem_append.mp hcontent
    obtain rfl := Outcome.returned.inj (deleteIfPresent_ok h₁ hnode)
    cases machine with
    | none => exact (Program.runs_done_iff.mp h₂).2
    | some machine => exact deleteIfPresent_ok h₂ hmachine
  · cases deleteIfPresent_ok h₁ hcontent

/-! ## Everything else -/

section

variable {options : ScenarioOptions} {undo : Undo}

theorem eq_of_mem_optedIn (h : undo ∈ Scenario.optedIn options) :
    (∃ kind name, undo = .delete kind name ∧ kind.isFixture = true) ∨
      ∃ name label, undo = .unlabelPool name label := by
  simp only [Scenario.optedIn, Scenario.provisioned, List.mem_append, List.mem_cons, List.not_mem_nil,
    or_false] at h
  rcases h with (rfl | rfl | rfl | rfl | rfl) | rfl
  · exact .inl ⟨_, _, rfl, rfl⟩
  · exact .inl ⟨_, _, rfl, rfl⟩
  · exact .inl ⟨_, _, rfl, rfl⟩
  · exact .inl ⟨_, _, rfl, rfl⟩
  · exact .inl ⟨_, _, rfl, rfl⟩
  · exact .inr ⟨_, _, rfl⟩

theorem ok_of_mem_optedIn (hmem : undo ∈ Scenario.optedIn options) (h : undo.program.Runs t o)
    (hok : ∀ e ∈ t, e.succeeds = true) : o = .returned (.ok ()) := by
  rcases eq_of_mem_optedIn hmem with ⟨kind, name, rfl, -⟩ | ⟨name, label, rfl⟩
  · rw [runs_program_delete_iff.mp h] at hok
    have hreply := List.forall_mem_singleton.mp hok
    rcases o with (e | ⟨⟩) | payload
    · cases hreply
    · rfl
    · cases hreply
  · exact unlabel_ok_of_succeeds (k := .pool) h hok

/-- None of these undoings has to do with nodes or machines. -/
theorem apart_of_mem_optedIn (hmem : undo ∈ Scenario.optedIn options) (h : undo.program.Runs t o) :
    ∀ e ∈ t, e.onNodes = false ∧ ∀ name, e.deleting? ≠ some (.machine, name) := by
  rcases eq_of_mem_optedIn hmem with ⟨kind, name, rfl, hkind⟩ | ⟨name, label, rfl⟩
  · rw [runs_program_delete_iff.mp h]
    refine List.forall_mem_singleton.mpr ⟨?_, ?_⟩
    · cases kind <;> first | rfl | cases hkind
    · rintro name ⟨⟩
      cases hkind
  · obtain ⟨s, o', hs, rfl, -⟩ := runs_unlabel_iff.mp h
    intro e he
    obtain ⟨-, hdeleting, -⟩ := (mutate_settled hs).changed (k := .pool) he
    constructor
    · obtain ⟨⟨query, reply⟩, -, rfl⟩ := List.mem_map.mp he
      cases query <;> rfl
    · intro name hname
      cases hdeleting.symm.trans hname

end

end Undo

namespace Scenario

variable {options : ScenarioOptions}

/-- Taking the label of the pool off the node. -/
def withdrawal (options : ScenarioOptions) (node : Node) : Undo :=
  .unlabelNode node.name (nodeRoleLabel options.poolName)

/-- What a teardown undoes after that, if the node is to be deleted. -/
def afterWithdrawal (options : ScenarioOptions) (node : Node) : List Undo :=
  .deleteNode node.name node.machine :: (optedIn options).reverse

/-! ## The run -/

section

variable {rollout : RolloutOptions} {phases teardown : PlaneTrace} {passed : PhasesOutcome}
  {q : Progress} {o : Outcome (Except ScenarioFailure ScenarioOutcome)} {node : Node}

theorem plan_of_deleteNode (hrollout : options.rollout = some rollout)
    (hdelete : rollout.deleteNode = true) : plan options node =
      optedIn options ++ [.deleteNode node.name node.machine, withdrawal options node] := by
  simp [plan, optedIn, borrowed, hrollout, selection, hdelete, withdrawal]

/-- The teardown after phases that passed, taken apart: the label is taken off first. -/
theorem tornDown_of_passed (hrollout : options.rollout = some rollout)
    (hdelete : rollout.deleteNode = true) (hskip : options.skipCleanup = false)
    (hphases : (Phased.track (Phases.all options).run {}).Runs phases
      (.returned (.returned (.ok passed), q)))
    (hrun : (run options).Runs (phases ++ teardown) o) :
    ∃ node first ending later,
      acquisitions options phases =
        optedIn options ++ [.deleteNode node.name node.machine, withdrawal options node] ∧
      teardown = first ++ (later.map (·.1)).flatten ∧
      (withdrawal options node).program.Runs first ending ∧
      List.Forall₂ (fun (undo : Undo) (attempt : PlaneTrace × Attempted Unit) =>
        undo.program.Runs attempt.1 attempt.2) (afterWithdrawal options node) later ∧
      o = .returned (conclude options.name q.phase (.ok passed) (.ofEndings
        ((withdrawal options node, ending) ::
          (afterWithdrawal options node).zip (later.map (·.2))))) := by
  obtain ⟨cleanup, hteardown, rfl⟩ := (runs_run_of_phases hskip hphases).mp hrun
  obtain ⟨seen, node, hat⟩ := acquired_of_passed hphases
  obtain ⟨attempts, heach, rfl, rfl⟩ := CleanupReport.attempts_of_runs hteardown
  have hundos : q.undos.reverse = withdrawal options node :: afterWithdrawal options node := by
    rw [hat.registered, plan_of_deleteNode hrollout hdelete]
    simp [afterWithdrawal]
  rw [hundos] at heach ⊢
  cases heach with
  | @cons _ attempt _ later hfirst hlater =>
    refine ⟨node, attempt.1, attempt.2, later, ?_, rfl, hfirst, hlater, rfl⟩
    rw [hat.acquired, plan_of_deleteNode hrollout hdelete]

/-- What comes after the withdrawal succeeds if deleting the node and its machine is content with what
it finds, and nothing else fails. -/
theorem ok_of_mem_afterWithdrawal {later : List (PlaneTrace × Attempted Unit)}
    (heach : List.Forall₂ (fun (undo : Undo) (attempt : PlaneTrace × Attempted Unit) =>
      undo.program.Runs attempt.1 attempt.2) (afterWithdrawal options node) later)
    (hothers : ∀ e ∈ (later.map (·.1)).flatten, e.onNodes = false → e.Content .machine)
    (hnodes : ∀ e ∈ (later.map (·.1)).flatten, e.onNodes = true →
      e.succeeds = true ∨ e.findsNothing = true) :
    ∀ attempt ∈ later, attempt.2 = .returned (.ok ()) := by
  cases heach with
  | @cons _ deletion _ rest hdeletion hrest =>
    rw [List.map_cons, List.flatten_cons, List.forall_mem_append] at hothers hnodes
    refine List.forall_mem_cons.mpr ⟨Undo.deleteNode_ok hdeletion fun e he => ?_, ?_⟩
    · cases hon : e.onNodes with
      | true => exact hnodes.1 e he hon
      | false => exact (hothers.1 e he hon).imp_right And.left
    · intro attempt hattempt
      obtain ⟨i, hi, rfl⟩ := List.mem_iff_getElem.mp hattempt
      have hi' : i < (optedIn options).reverse.length := by rwa [hrest.length_eq]
      have hruns := hrest.get hi' hi
      simp only [List.get_eq_getElem] at hruns
      -- what was acquired before the node asks nothing of the nodes and deletes no machine
      have hmem : (optedIn options).reverse[i] ∈ optedIn options :=
        List.mem_reverse.mp (List.getElem_mem hi')
      refine Undo.ok_of_mem_optedIn hmem hruns fun e he => ?_
      obtain ⟨hon, hmachine⟩ := Undo.apart_of_mem_optedIn hmem hruns e he
      have hin : e ∈ (rest.map (·.1)).flatten :=
        List.mem_flatten.mpr ⟨rest[i].1, List.mem_map_of_mem hattempt, he⟩
      rcases hothers.2 e hin hon with hok | ⟨-, name, hname⟩
      · exact hok
      · exact absurd hname (hmachine name)

/-- The withdrawal asks the nodes, and otherwise only pauses. -/
theorem event_of_withdrawal {first : PlaneTrace} {ending : Attempted Unit}
    (h : (withdrawal options node).program.Runs first ending) :
    ∀ e ∈ first, (∀ name, e.deleting? ≠ some (.node, name)) ∧
      (e.onNodes = true ∨ e.succeeds = true ∧ e.findsNothing = true) := by
  obtain ⟨s, o', hs, rfl, -⟩ := Undo.runs_unlabel_iff.mp h
  intro e he
  obtain ⟨-, hdeleting, -⟩ := (mutate_settled hs).changed (k := .node) he
  constructor
  · intro name hname
    cases hdeleting.symm.trans hname
  · obtain ⟨⟨query, reply⟩, -, rfl⟩ := List.mem_map.mp he
    cases query with
    | call call => exact .inl rfl
    | _ => exact .inr ⟨rfl, rfl⟩

/-- Consider a run whose phases passed, which is to delete its node, and in whose teardown all calls
succeed that are not about nodes, except that the machine of the node may be gone. If the calls about
nodes find nothing, then the run fails in the teardown, with the label of the pool as all that could not
be taken back. If they succeed, except that there may be no node to delete, then the run passes. -/
theorem run_of_vanishedNode (hrollout : options.rollout = some rollout)
    (hdelete : rollout.deleteNode = true) (hskip : options.skipCleanup = false)
    (hphases : (Phased.track (Phases.all options).run {}).Runs phases
      (.returned (.returned (.ok passed), q)))
    (hrun : (run options).Runs (phases ++ teardown) o)
    (hothers : ∀ e ∈ teardown, e.onNodes = false → e.Content .machine) :
    ∃ node, acquisitions options phases =
        optedIn options ++ [.deleteNode node.name node.machine, withdrawal options node] ∧
      ((∀ e ∈ teardown, e.onNodes = true → e.findsNothing = true) →
        ∃ gone, gone.isNotFound = true ∧ o = .returned (.error
          { scenario := options.name
            phase := .cleanup
            source := .cleanupFailed [(withdrawal options node).name]
            cleanup :=
              { completed := (afterWithdrawal options node).map Undo.name
                failed := [((withdrawal options node).name, gone)] } })) ∧
      ((∀ e ∈ teardown, e.onNodes = true → e.Content .node) →
        o = .returned (.ok
          { passed with
            scenario := options.name
            cleanup :=
              { completed := (withdrawal options node :: afterWithdrawal options node).map
                  Undo.name } })) := by
  obtain ⟨node, first, ending, later, hacquired, rfl, hfirst, hlater, rfl⟩ :=
    tornDown_of_passed hrollout hdelete hskip hphases hrun
  refine ⟨node, hacquired, fun hgone => ?_, fun hcontent => ?_⟩
  · -- the label is asked for at the nodes, so all that its update hears is that there is none
    rw [List.forall_mem_append] at hgone hothers
    have hnothing : ∀ e ∈ first, e.findsNothing = true := by
      intro e he
      rcases (event_of_withdrawal hfirst e he).2 with hon | ⟨-, hpause⟩
      · exact hgone.1 e he hon
      · exact hpause
    obtain ⟨gone, hnone, rfl⟩ := Undo.unlabel_error_of_findsNothing (k := .node) hfirst hnothing
    have hok := ok_of_mem_afterWithdrawal hlater hothers.2 fun e he hon => .inr (hgone.2 e he hon)
    refine ⟨gone, hnone, ?_⟩
    rw [CleanupReport.ofEndings_cons_error, CleanupReport.ofEndings_of_ok hlater.length_eq hok]
    rfl
  · -- it is no deletion either, so here its update has nothing to be content with but success
    rw [List.forall_mem_append] at hcontent hothers
    have hsucceeds : ∀ e ∈ first, e.succeeds = true := by
      intro e he
      obtain ⟨hdeleting, hon | ⟨hpause, -⟩⟩ := event_of_withdrawal hfirst e he
      · rcases hcontent.1 e he hon with hok | ⟨-, name, hname⟩
        · exact hok
        · exact absurd hname (hdeleting name)
      · exact hpause
    obtain rfl := Undo.unlabel_ok_of_succeeds (k := .node) hfirst hsucceeds
    have hok := ok_of_mem_afterWithdrawal hlater hothers.2 fun e he hon =>
      (hcontent.2 e he hon).imp_right And.left
    rw [CleanupReport.ofEndings_cons_ok, CleanupReport.ofEndings_of_ok hlater.length_eq hok]
    rfl

/-! ## A node that vanishes -/

/-- A cluster in which calls about the only node meet the faults. -/
def faultyWorker (faults : Rehearsal.Faults) : Rehearsal.Cluster :=
  { oneWorker ∅ with nodes := { (oneWorker ∅).nodes with faults } }

def workerGone : Option Rehearsal.Fault := some (.fail (.notFound "Node" "worker-0"))

/-- The node is gone when it is read for the fourth time, which is in the teardown. -/
def vanishingWorker : Rehearsal.Cluster :=
  faultyWorker { get := [none, none, none, workerGone], delete := [workerGone] }

/-- The node is gone when it is to be deleted, and was there before. -/
def lateVanishingWorker : Rehearsal.Cluster := faultyWorker { delete := [workerGone] }

/-- Whether the phases pass and in the teardown the calls about nodes are as described and all others
succeed. -/
def passesWith (onNodes : PlaneEvent → Bool) (options : ScenarioOptions) (c : Rehearsal.Cluster) :
    Bool :=
  match (Phased.track (Phases.all options).run {}).run replies (.start c) with
  | (.returned (.returned (.ok _), q), w) =>
    ((CleanupReport.carryOut (q.undos.reverse.map Undo.action) {}).trace replies w).all fun e =>
      if e.onNodes then onNodes e else e.succeeds
  | _ => false

theorem exists_of_passesWith (hskip : options.skipCleanup = false) {c : Rehearsal.Cluster}
    {onNodes : PlaneEvent → Bool} (h : passesWith onNodes options c = true) :
    ∃ phases teardown passed q, (run options).trace replies (.start c) = phases ++ teardown ∧
      (Phased.track (Phases.all options).run {}).Runs phases
        (.returned (.returned (.ok passed), q)) ∧
      (∀ e ∈ teardown, e.onNodes = true → onNodes e = true) ∧
      ∀ e ∈ teardown, e.onNodes = false → e.succeeds = true := by
  have hruns := Program.runs_trace replies (Phased.track (Phases.all options).run {}) (.start c)
  unfold passesWith at h
  split at h
  · rename_i passed q w hphases
    rw [hphases] at hruns
    refine ⟨_, (CleanupReport.carryOut (q.undos.reverse.map Undo.action) {}).trace replies w, passed, q,
      ?_, hruns, fun e he hon => ?_, fun e he hon => ?_⟩
    · rw [run_eq hskip, Program.trace_bind, hphases]
      dsimp only
      rw [Program.trace_bind]
      rcases (CleanupReport.carryOut (q.undos.reverse.map Undo.action) {}).run replies w with
        ⟨_ | _, _⟩ <;> simp [Program.trace]
    · have hevent := List.all_eq_true.mp h e he
      rwa [if_pos hon] at hevent
    · have hevent := List.all_eq_true.mp h e he
      rwa [if_neg (by simp [hon])] at hevent
  · cases h

theorem passes_vanishingWorker :
    passesWith Event.findsNothing deletesWorker vanishingWorker = true := rfl

theorem passes_lateVanishingWorker :
    passesWith (fun e => e.succeeds || e.findsNothing && e.deleting? == some (.node, "worker-0"))
      deletesWorker lateVanishingWorker = true := rfl

/-- The run fails over a node that is gone when its label is to be taken off, and passes over one that
vanishes after that. -/
theorem run_of_vanishedNode_either :
    (∃ node gone, gone.isNotFound = true ∧
      ((run deletesWorker).run replies (.start vanishingWorker)).1 = .returned (.error
        { scenario := "demo"
          phase := .cleanup
          source := .cleanupFailed [(withdrawal deletesWorker node).name]
          cleanup :=
            { completed := (afterWithdrawal deletesWorker node).map Undo.name
              failed := [((withdrawal deletesWorker node).name, gone)] } })) ∧
    ∃ node passed, ((run deletesWorker).run replies (.start lateVanishingWorker)).1 = .returned (.ok
      { (passed : PhasesOutcome) with
        scenario := "demo"
        cleanup :=
          { completed := (withdrawal deletesWorker node :: afterWithdrawal deletesWorker node).map
              Undo.name } }) := by
  constructor
  · have hruns := Program.runs_trace replies (run deletesWorker) (.start vanishingWorker)
    obtain ⟨phases, teardown, passed, q, htrace, hphases, hgone, hothers⟩ :=
      exists_of_passesWith rfl passes_vanishingWorker
    rw [htrace] at hruns
    obtain ⟨node, -, hfails, -⟩ := run_of_vanishedNode rfl rfl rfl hphases hruns
      fun e he hon => .inl (hothers e he hon)
    exact ⟨node, hfails hgone⟩
  · have hruns := Program.runs_trace replies (run deletesWorker) (.start lateVanishingWorker)
    obtain ⟨phases, teardown, passed, q, htrace, hphases, hcontent, hothers⟩ :=
      exists_of_passesWith rfl passes_lateVanishingWorker
    rw [htrace] at hruns
    obtain ⟨node, -, -, hpasses⟩ := run_of_vanishedNode rfl rfl rfl hphases hruns
      fun e he hon => .inl (hothers e he hon)
    refine ⟨node, passed, hpasses fun e he hon => ?_⟩
    have hevent := hcontent e he hon
    rw [Bool.or_eq_true, Bool.and_eq_true, beq_iff_eq] at hevent
    exact hevent.imp_right fun ⟨hnone, hdeleting⟩ => ⟨hnone, _, hdeleting⟩

/-- The phases pass, whatever the teardown asks about nodes finds nothing, all else in it succeeds, and
the run fails. -/
theorem vanishedNode_fails_run :
    ∃ rollout phases teardown passed q failure, deletesWorker.rollout = some rollout ∧
      rollout.deleteNode = true ∧ deletesWorker.skipCleanup = false ∧
      (run deletesWorker).trace replies (.start vanishingWorker) = phases ++ teardown ∧
      (Phased.track (Phases.all deletesWorker).run {}).Runs phases
        (.returned (.returned (.ok passed), q)) ∧
      (∀ e ∈ teardown, e.onNodes = true → e.findsNothing = true) ∧
      (∀ e ∈ teardown, e.onNodes = false → e.succeeds = true) ∧
      ((run deletesWorker).run replies (.start vanishingWorker)).1 = .returned (.error failure) := by
  obtain ⟨phases, teardown, passed, q, htrace, hphases, hgone, hothers⟩ :=
    exists_of_passesWith rfl passes_vanishingWorker
  have hfails : ∃ failure, ((run deletesWorker).run replies (.start vanishingWorker)).1 =
      .returned (.error failure) := by
    rw [run_eq rfl]
    exact ⟨_, rfl⟩
  obtain ⟨failure, hfails⟩ := hfails
  exact ⟨_, phases, teardown, passed, q, failure, rfl, rfl, rfl, htrace, hphases, hgone, hothers,
    hfails⟩

end

end Scenario

end BuildTrial
