import BuildTrial.Proofs.Scenario.Registrations
import BuildTrial.Proofs.Scenario.VanishedNode

/-!
# A node that is destroyed though it never joined the pool

A run that is asked to deletes the node that it rolled the image out to, and the machine behind it. The
deletion is registered with the choice of the node, ahead of the update that puts the label of the pool on
it. So the teardown deletes the node whatever became of that update (`exists_delete_of_acquired`), and there
is just one way for it to delete a node that has not joined the pool: the run failed in that update
(`destroyed_of_run`).
-/

namespace BuildTrial

open Phased

/-! ## The label that did not come -/

namespace Phases

/-- The last that was done is the update that should have put the label on the node, and it ended so. -/
def LabelRefused (name label : String) (stop : Outcome Error) (t : PlaneTrace) : Prop :=
  ∃ earlier s, t = earlier ++ s.map (Event.onPlane .node) ∧
    (mutate name .forConflicts fun node : Node => .returned (addLabel label node)).Runs s
      stop.stopping

/-- Putting the label on a node has done so, or has just been refused. -/
theorem leads_label_refused {name key : String} :
    Leads (fun _ _ => True) (label .node name key) (fun _ t _ => NodeLabelled name key t)
      fun stop t _ => LabelRefused name key stop t := by
  have hrefused : Leads (fun _ _ => True) (label .node name key) (fun _ _ _ => True)
      fun stop t _ => LabelRefused name key stop t := by
    refine leads_bind (m := fun _ _ _ => True) (leads_onStore ?_) fun _ =>
      leads_pure fun _ _ h => h
    intro t q _ s o hs
    rcases o with (e | v) | payload
    · exact ⟨t, s, rfl, hs⟩
    · exact trivial
    · exact ⟨t, s, rfl, hs⟩
  exact (leads_label_node.and hrefused).weaken (fun _ _ h => ⟨h, h⟩) (fun _ _ _ h => h.1)
    fun _ _ _ h => h.2

end Phases

namespace Scenario

open Phases

variable {options : ScenarioOptions}

/-- The undoing destroys no node. -/
def SparesNodes (undo : Undo) : Prop := ∀ name machine, undo ≠ .deleteNode name machine

/-- If the undoing destroys a node, it is this one. -/
def DestroysOnly (name : String) (undo : Undo) : Prop :=
  ∀ name' machine, undo = .deleteNode name' machine → name' = name

/-- Every node that is to be destroyed has the label of the pool. -/
def DoomedLabelled (options : ScenarioOptions) : Assertion := fun t q =>
  ∀ name machine, .deleteNode name machine ∈ q.undos → NodeLabelled name (roleLabel options) t

/-- Every node that is to be destroyed has the label of the pool, or was just refused it. -/
def DoomedTried (options : ScenarioOptions) (stop : Outcome Error) : Assertion := fun t q =>
  ∀ name machine, .deleteNode name machine ∈ q.undos → NodeLabelled name (roleLabel options) t ∨
    LabelRefused name (roleLabel options) stop t

theorem doomedLabelled_of_destroysOnly {name : String} {t : PlaneTrace} {q : Progress}
    (honly : Registered (DestroysOnly name) t q) (h : NodeLabelled name (roleLabel options) t) :
    DoomedLabelled options t q := by
  intro name' machine hmem
  obtain rfl := honly _ hmem _ _ rfl
  exact h

/-- Where no other node is to be destroyed, putting the label on this one leaves it labelled or just refused,
and what a rollout does next does not take the label away. -/
theorem leads_label_doomed {ctx : ScenarioContext} {image : String} {rollout : RolloutOptions}
    {node : Node} :
    Leads (Registered (DestroysOnly node.name))
      (label .node node.name (roleLabel ctx.options) >>= fun _ => afterLabel ctx image rollout node)
      (fun _ => DoomedLabelled ctx.options) (DoomedTried ctx.options) := by
  refine leads_bind (m := fun _ t q => Registered (DestroysOnly node.name) t q ∧
    NodeLabelled node.name (roleLabel ctx.options) t) ?_ fun _ => ?_
  · refine (registers_label.and leads_label_refused).weaken (fun _ _ h => ⟨h, trivial⟩)
      (fun _ _ _ h => h) ?_
    rintro stop t q ⟨honly, hrefused⟩ name machine hmem
    obtain rfl := honly _ hmem _ _ rfl
    exact .inr hrefused
  · -- what follows may fail as well, but the label is there by then
    have hlabelled := leads_known (x := afterLabel ctx image rollout node)
      (K := NodeLabelled node.name (roleLabel ctx.options)) fun _ u h => h.append u
    refine ((registers_afterLabel fun _ _ => nofun).and hlabelled).weaken (fun _ _ h => h) ?_ ?_
    · rintro _ t q ⟨honly, hlabelled⟩
      exact doomedLabelled_of_destroysOnly honly hlabelled
    · rintro _ t q ⟨honly, hlabelled⟩ name machine hmem
      exact .inl (doomedLabelled_of_destroysOnly honly hlabelled name machine hmem)

/-- A rollout labels the node whose deletion it registers, and it does so next. -/
theorem leads_rollout_doomed {ctx : ScenarioContext} {image : String} {rollout : RolloutOptions} :
    Leads (Registered SparesNodes) (Phases.rollout ctx image rollout)
      (fun _ => DoomedLabelled ctx.options) (DoomedTried ctx.options) := by
  refine leads_bind (registers_selectNode.weaken (fun _ _ h => h) (fun _ _ _ h => h) ?_)
    fun node => ?_
  · intro stop t q hspares name machine hmem
    exact absurd rfl (hspares _ hmem name machine)
  have hspares : ∀ t q, Registered SparesNodes t q → Registered (DestroysOnly node.name) t q :=
    fun _ _ => Registered.mono fun undo hspares name machine hundo =>
      absurd hundo (hspares name machine)
  dsimp only
  split
  · refine leads_bind ?_ fun _ => leads_label_doomed
    refine (registers_register ?_).weaken hspares (fun _ _ _ h => h) fun _ _ _ h => h
    rintro _ _ ⟨⟩
    rfl
  · exact leads_label_doomed.weaken hspares (fun _ _ _ h => h) fun _ _ _ h => h

theorem registered_subset_optedIn {s : Stage} : s.registered options ⊆ optedIn options := by
  cases s <;> simp [Stage.registered, optedIn]

theorem sparesNodes_of_mem_optedIn {undo : Undo} (h : undo ∈ optedIn options) :
    SparesNodes undo := by
  rcases Undo.eq_of_mem_optedIn h with ⟨_, _, rfl, -⟩ | ⟨_, _, rfl⟩ <;> exact nofun

/-- However the phases end, a node that is to be deleted has the label of the pool, or they ended when this
was refused. -/
theorem doomed_of_phases {t : PlaneTrace} {ending : Outcome (Except Error PhasesOutcome)}
    {q : Progress} (h : (track (Phases.all options).run {}).Runs t (.returned (ending, q)))
    {name : String} {machine : Option String} (hmem : .deleteNode name machine ∈ q.undos) :
    NodeLabelled name (roleLabel options) t ∨ ∃ stop : Outcome Error, ending = stop.stopping ∧
      q.phase = .rollout ∧ LabelRefused name (roleLabel options) stop t := by
  obtain ⟨s, before, q₁, during, ending', rfl, hreached, hduring, hends, hphase⟩ := phases_walk h
  obtain ⟨hscenario, hat⟩ := hreached.registered
  have hspares : Registered SparesNodes before q₁ := by
    intro undo hundo
    rw [hat.registered] at hundo
    exact sparesNodes_of_mem_optedIn (registered_subset_optedIn hundo)
  by_cases hs : s.phase = .rollout
  · cases s with
    | rollout ctx image rollout =>
      obtain rfl : ctx.options = options := hscenario
      have hend := leads_rollout_doomed before q₁ hspares during ending' q hduring
      rcases ending' with (e | outcome) | payload
      · cases hends
        exact (hend name machine hmem).imp_right fun hrefused => ⟨.returned e, rfl, hphase, hrefused⟩
      · exact .inl (hend name machine hmem)
      · cases hends
        exact (hend name machine hmem).imp_right fun hrefused =>
          ⟨.panicked payload, rfl, hphase, hrefused⟩
    | _ => cases hs
  · have hend := Stage.registers hs (P := SparesNodes) (fun _ _ => nofun) (fun _ _ => nofun)
      before q₁ hspares during ending' q hduring
    rcases ending' with (e | a) | payload <;> exact absurd rfl (hend _ hmem name machine)

/-! ## The teardown -/

/-- Each of the undoings is attempted. -/
theorem exists_attempt_of_mem {undos : List Undo} {attempts : List PlaneTrace}
    (h : List.Forall₂ Undo.Performed undos attempts) {undo : Undo} (hmem : undo ∈ undos) :
    ∃ t, undo.Performed t ∧ t ⊆ attempts.flatten := by
  induction h with
  | nil => cases hmem
  | @cons undo' t undos attempts hperformed _ ih =>
    rcases List.mem_cons.mp hmem with rfl | hmem
    · exact ⟨t, hperformed, fun e he => List.mem_append_left _ he⟩
    · obtain ⟨t', hperformed, hsubset⟩ := ih hmem
      exact ⟨t', hperformed, fun e he => List.mem_append_right _ (hsubset he)⟩

/-- A run that cleans up tries to delete the node that its phases have chosen for it, however they went on
from there. -/
theorem exists_delete_of_acquired (hskip : options.skipCleanup = false) {t : PlaneTrace}
    {o : Outcome (Except ScenarioFailure ScenarioOutcome)} (h : (run options).Runs t o) :
    ∃ phases ending teardown, t = phases ++ teardown ∧
      (track (Phases.all options).run {}).Runs phases (.returned ending) ∧
      ∀ name machine, .deleteNode name machine ∈ acquisitions options phases →
        ∃ e ∈ teardown, e.deleting? = some (.node, name) := by
  obtain ⟨phases, ending, q, teardown, cleanup, rfl, hphases, hteardown, -⟩ := runs_run hskip h
  obtain ⟨seen, done, node, hplan, hat⟩ := phases_acquire hphases
  obtain ⟨attempts, rfl, hall⟩ := CleanupReport.performed_of_runs hteardown
  refine ⟨phases, (ending, q), attempts.flatten, rfl, hphases, fun name machine hmem => ?_⟩
  rw [hat.acquired, ← hat.registered] at hmem
  obtain ⟨t, hperformed, hsubset⟩ := exists_attempt_of_mem hall (List.mem_reverse.mpr hmem)
  cases hperformed with
  | nodeOnly => exact ⟨_, hsubset (List.mem_singleton_self _), rfl⟩
  | nodeAndMachine => exact ⟨_, hsubset List.mem_cons_self, rfl⟩

theorem isFixture_of_mem_plan {node : Node} {kind : Kind} {name : String}
    (h : .delete kind name ∈ plan options node) : kind.isFixture = true := by
  rcases List.mem_append.mp h with hmem | hmem
  · rcases Undo.eq_of_mem_optedIn (List.mem_append_left _ hmem) with ⟨_, _, ⟨⟩, hkind⟩ | ⟨_, _, ⟨⟩⟩
    exact hkind
  · cases not_isDelete_of_mem_borrowed hmem

/-- The plan destroys no node but the one that is chosen. -/
theorem eq_of_deleteNode_mem_plan {node : Node} {n : String} {machine : Option String}
    (h : .deleteNode n machine ∈ plan options node) : n = node.name ∧ machine = node.machine := by
  rcases List.mem_append.mp h with hmem | hmem
  · exact absurd rfl (sparesNodes_of_mem_optedIn (List.mem_append_left _ hmem) n machine)
  · rcases eq_of_mem_borrowed hmem with ⟨⟨⟩⟩ | ⟨⟨⟩⟩ | ⟨⟨⟩⟩
    exact ⟨rfl, rfl⟩

/-- Whatever the control plane does, a run deletes no node and no machine but the node that it chose, if it
was asked to, and the machine behind it. It has put the label of the pool on that node before, or it failed
with what refused this. -/
theorem destroyed_of_run {t before after : PlaneTrace} {e : PlaneEvent}
    {o : Outcome (Except ScenarioFailure ScenarioOutcome)} (h : (run options).Runs t o)
    (ht : t = before ++ e :: after) {kind : Kind} {name : String}
    (hdelete : e.deleting? = some (kind, name)) (hkind : kind.isFixture = false) :
    ∃ node : Node, .deleteNode node.name node.machine ∈ acquisitions options before ∧
      (kind = .node ∧ name = node.name ∨ kind = .machine ∧ node.machine = some name) ∧
      (NodeLabelled node.name (roleLabel options) before ∨
        ∃ phases stop failure, phases <+: before ∧
          LabelRefused node.name (roleLabel options) stop phases ∧
          o = .returned (.error failure) ∧ failure.phase = .rollout ∧
          phasesResult .rollout stop.stopping = .error failure.source) := by
  obtain ⟨phases, ending, q, teardown, cleanup, registry, hparts, hphases, hteardown, rfl⟩ :=
    exists_of_runs_run h
  obtain ⟨seen, done, node, hplan, hat⟩ := phases_acquire hphases
  -- the phases delete nothing, so the event is one of the teardown
  rw [hparts] at ht
  rcases Program.exists_of_append_eq_append_cons ht with ⟨a, rfl, -⟩ | ⟨a, rfl, rfl⟩
  · cases (hat.undeleted e (by simp)).symm.trans hdelete
  obtain ⟨undo, hundo, attempt, hperformed, he⟩ :=
    (Progress.tornDown hteardown).exists_performed (e := e) (by simp)
  have hdone : undo ∈ done := hat.registered ▸ hundo
  have hmem := hplan.subset hdone
  rcases hperformed.of_deleting he hdelete with rfl | ⟨n, machine, rfl, htarget⟩
  · cases hkind.symm.trans (isFixture_of_mem_plan hmem)
  obtain ⟨rfl, rfl⟩ := eq_of_deleteNode_mem_plan hmem
  have hchosen : .deleteNode node.name node.machine ∈ acquisitions options phases :=
    hat.acquired ▸ hdone
  refine ⟨node, ?_, htarget, ?_⟩
  · rw [acquisitions, acquisitionsAfter_append]
    exact List.mem_append_left _ hchosen
  · rcases doomed_of_phases hphases hundo with hlabelled | ⟨stop, rfl, hphase, hrefused⟩
    · exact .inl (hlabelled.append a)
    · rw [hphase]
      refine .inr ⟨phases, stop, ?_⟩
      cases stop with
      | returned e => exact ⟨_, List.prefix_append _ _, hrefused, rfl, rfl, rfl⟩
      | panicked payload => exact ⟨_, List.prefix_append _ _, hrefused, rfl, rfl, rfl⟩

/-! ## A node that was refused the label -/

/-- Whether a run with this trace deletes this. -/
def deletes (t : PlaneTrace) (target : Kind × String) : Bool :=
  t.any fun e => e.deleting? == some target

theorem exists_of_deletes {t : PlaneTrace} {target : Kind × String} (h : deletes t target = true) :
    ∃ e ∈ t, e.deleting? = some target := by
  obtain ⟨e, he, htarget⟩ := List.any_eq_true.mp h
  exact ⟨e, he, beq_iff_eq.mp htarget⟩

/-- Without a competing writer the node is labelled before its machine is deleted. -/
theorem destroyed_of_run_uncontested :
    ∃ before e after,
      (run deletesWorker).trace replies (.start (contestedWorker 0)) = before ++ e :: after ∧
      e.deleting? = some (.machine, "machine-0") ∧
      ∃ node : Node, .deleteNode node.name node.machine ∈ acquisitions deletesWorker before ∧
        node.machine = some "machine-0" ∧
        NodeLabelled node.name (roleLabel deletesWorker) before := by
  have hdeletes : deletes ((run deletesWorker).trace replies (.start (contestedWorker 0)))
      (.machine, "machine-0") = true := by
    rw [run_eq rfl]
    decide +kernel
  have hpasses : ∃ outcome, ((run deletesWorker).run replies (.start (contestedWorker 0))).1 =
      .returned (.ok outcome) := by
    rw [run_eq rfl]
    exact ⟨_, rfl⟩
  obtain ⟨e, he, hdelete⟩ := exists_of_deletes hdeletes
  obtain ⟨before, after, htrace⟩ := List.append_of_mem he
  obtain ⟨outcome, hpasses⟩ := hpasses
  obtain ⟨node, hchosen, ⟨⟨⟩, -⟩ | ⟨-, hmachine⟩, hlabelled⟩ :=
    destroyed_of_run (Program.runs_trace replies _ _) htrace hdelete rfl
  refine ⟨before, e, after, htrace, hdelete, node, hchosen, hmachine, ?_⟩
  rcases hlabelled with hlabelled | ⟨_, _, _, -, -, hfailed, -⟩
  · exact hlabelled
  · cases hpasses.symm.trans hfailed

/-- A competing writer that comes first five times keeps the label off the node, and the node is deleted with
its machine. -/
theorem destroyed_without_label :
    ∃ t, t = (run deletesWorker).trace replies (.start (contestedWorker 6)) ∧
      (∃ e ∈ t, e.deleting? = some (.node, "worker-0")) ∧
      (∃ e ∈ t, e.deleting? = some (.machine, "machine-0")) ∧
      ∀ label, ¬NodeLabelled "worker-0" label t := by
  have hdeletes : ∀ target ∈ [(Kind.node, "worker-0"), (.machine, "machine-0")],
      deletes ((run deletesWorker).trace replies (.start (contestedWorker 6))) target = true := by
    rw [run_eq rfl]
    decide +kernel
  have hstill : ∀ e ∈ (run deletesWorker).trace replies (.start (contestedWorker 6)),
      Event.updatedNode? e = none := by
    rw [run_eq rfl]
    decide +kernel
  refine ⟨_, rfl, exists_of_deletes (hdeletes _ (by simp)),
    exists_of_deletes (hdeletes _ (by simp)), ?_⟩
  rintro label ⟨e, he, v, ⟨desired, expected, _, -⟩⟩
  cases hstill _ he

end Scenario

end BuildTrial
