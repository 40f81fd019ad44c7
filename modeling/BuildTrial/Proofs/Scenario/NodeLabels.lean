import BuildTrial.Proofs.Scenario.Fixtures
import BuildTrial.Proofs.Scenario.MovedNode

/-!
# What a run leaves of the labels of the nodes

A run that keeps its node puts the label of the pool on it and takes the label off again. So after a
clean teardown all labels of all nodes are as they were, with one exception (`nodeLabels_of_run`). Taking
a label off does not ask whether it was there before: a node that was in the pool already has lost the
label afterwards (`nodeLabels_lost_of_run`). No random candidate is in the pool, so this happens only
to a node that was asked for by name.
-/

namespace BuildTrial

namespace StringMap

theorem erase_insert (map : StringMap String) (key value : String) :
    (map.insert key value).erase key = map.erase key := by
  refine Std.ExtTreeMap.ext_getElem? fun n => ?_
  rw [Std.ExtTreeMap.getElem?_erase, Std.ExtTreeMap.getElem?_erase, Std.ExtTreeMap.getElem?_insert]
  split <;> rfl

theorem erase_eq_self_iff {map : StringMap String} {key : String} :
    map.erase key = map ↔ key ∉ map := by
  constructor
  · intro h
    rw [← h]
    simp
  · intro h
    refine Std.ExtTreeMap.ext_getElem? fun n => ?_
    rw [Std.ExtTreeMap.getElem?_erase]
    split
    · rename_i heq
      rw [Std.LawfulEqCmp.compare_eq_iff_eq] at heq
      rw [← heq, Std.ExtTreeMap.getElem?_eq_none h]
    · rfl

end StringMap

/-- The labels of the nodes of a cluster. -/
def Rehearsal.Cluster.nodeLabels {ρ : Kind → Type} {ε : Type} (c : Cluster ρ ε) :
    String → Option (StringMap String) :=
  c.nodes.memory.viewed Node.labels

namespace Undo

/-- What the undoing makes of the labels of the nodes when it succeeds. -/
def releases : Undo → (String → Option (StringMap String)) → String → Option (StringMap String)
  | .unlabelNode name label, nodes =>
    Function.update nodes name ((nodes name).map (·.erase label))
  | _, nodes => nodes

/-- The undoing deletes no node. -/
def KeepsNodes : Undo → Prop
  | .delete kind _ => kind ≠ .node
  | .deleteNode .. => False
  | .unlabelPool .. | .unlabelNode .. => True

theorem viewedAfter_of_runs {undo : Undo} (hkeeps : undo.KeepsNodes) {t : PlaneTrace}
    (h : undo.program.Runs t (.returned (.ok ()))) {nodes : String → Option (StringMap String)}
    (hshow : AllShow Node.labels t nodes) :
    viewedAfter Node.labels t nodes = undo.releases nodes := by
  cases undo with
  | delete kind name =>
    rw [runs_program_delete_iff.mp h]
    refine viewedAfter_of_still (List.forall_mem_singleton.mpr ?_)
      (List.forall_mem_singleton.mpr ⟨?_, ?_⟩) _ _
    · exact Event.updatedNode?_of_updating fun n hn => by cases hn
    · rintro n ⟨⟩
    · rintro n ⟨⟩
      exact hkeeps rfl
  | unlabelPool name label =>
    obtain ⟨s, _, hs, rfl, -⟩ := runs_unlabel h
    have hchanged : ∀ e ∈ s.map (Event.onPlane .pool), _ := fun e he =>
      (mutate_settled hs).changed (k := .pool) he
    refine viewedAfter_of_still (fun e he => ?_) (fun e he => ⟨fun n hn => ?_, fun n hn => ?_⟩) _ _
    · refine Event.updatedNode?_of_updating fun n hn => ?_
      cases (hchanged e he).2.2 _ hn
    · cases (hchanged e he).1.symm.trans hn
    · cases (hchanged e he).2.1.symm.trans (Event.deleting?_of_deleted? hn)
  | unlabelNode name label =>
    obtain ⟨s, _, hs, rfl, hok⟩ := runs_unlabel h
    obtain ⟨v, rfl⟩ := hok rfl
    obtain ⟨node, hnode, hviewed⟩ := (mutate_edited hs).viewed hshow
    rw [hviewed, releases, hnode]
    rfl
  | deleteNode name machine => exact hkeeps.elim

end Undo

/-- What a teardown makes of the labels of the nodes when all of it succeeds. -/
theorem viewedAfter_of_attempts {undos : List Undo} {attempts : List (PlaneTrace × Attempted Unit)}
    (heach : List.Forall₂ (fun (undo : Undo) attempt => undo.program.Runs attempt.1 attempt.2) undos
      attempts)
    (hkeeps : ∀ undo ∈ undos, undo.KeepsNodes)
    (hok : ∀ attempt ∈ attempts, attempt.2 = .returned (.ok ()))
    {nodes : String → Option (StringMap String)}
    (hshow : AllShow Node.labels (attempts.map (·.1)).flatten nodes) :
    viewedAfter Node.labels (attempts.map (·.1)).flatten nodes =
      undos.foldl (fun nodes undo => undo.releases nodes) nodes := by
  induction heach generalizing nodes with
  | nil => rfl
  | @cons undo attempt undos attempts hruns _ ih =>
    obtain ⟨hkeep, hkeeps⟩ := List.forall_mem_cons.mp hkeeps
    obtain ⟨hfirst, hok⟩ := List.forall_mem_cons.mp hok
    rw [hfirst] at hruns
    rw [List.map_cons, List.flatten_cons] at hshow ⊢
    have hafter := undo.viewedAfter_of_runs hkeep hruns hshow.left
    have hrest := hshow.right
    rw [hafter] at hrest
    rw [viewedAfter_append, hafter, List.foldl_cons]
    exact ih hkeeps hok hrest

theorem foldl_releases_of_none {undos : List Undo}
    (h : ∀ undo ∈ undos, ∀ name label, undo ≠ .unlabelNode name label)
    (nodes : String → Option (StringMap String)) :
    undos.foldl (fun nodes undo => undo.releases nodes) nodes = nodes := by
  induction undos generalizing nodes with
  | nil => rfl
  | cons undo undos ih =>
    obtain ⟨hundo, hundos⟩ := List.forall_mem_cons.mp h
    have hfirst : undo.releases nodes = nodes := by
      cases undo with
      | unlabelNode name label => exact absurd rfl (hundo name label)
      | _ => rfl
    rw [List.foldl_cons, hfirst]
    exact ih hundos nodes

/-- A teardown that reports no failure has succeeded throughout. -/
theorem CleanupReport.ok_of_failed_eq_nil {undos : List Undo}
    {attempts : List (PlaneTrace × Attempted Unit)} (hlength : undos.length = attempts.length)
    (h : (ofEndings (undos.zip (attempts.map (·.2)))).failed = []) :
    ∀ attempt ∈ attempts, attempt.2 = .returned (.ok ()) := by
  intro attempt hmem
  obtain ⟨i, hi, rfl⟩ := List.mem_iff_getElem.mp hmem
  have hlt : i < (undos.zip (attempts.map (·.2))).length := by
    rw [List.length_zip, List.length_map]
    omega
  have hentry := List.filterMap_eq_nil_iff.mp h _ (List.getElem_mem hlt)
  rw [List.getElem_zip, List.getElem_map] at hentry
  rcases hending : attempts[i].2 with (e | ⟨⟩) | payload
  · rw [hending] at hentry
    cases hentry
  · rfl
  · rw [hending] at hentry
    cases hentry

namespace Scenario

variable {options : ScenarioOptions} {done : List Undo} {node : Node}

/-- The scenario has nothing against its node being there after the run. -/
def KeepsNode (options : ScenarioOptions) : Prop :=
  ∀ rollout, options.rollout = some rollout → rollout.deleteNode = false

/-- What the phases acquire if the node is kept: nothing to do with nodes, and then its label. -/
theorem split_of_prefix_plan_kept (hkeep : KeepsNode options) (h : done <+: plan options node) :
    ∃ others last, done = others ++ last ∧
      (∀ undo ∈ others, undo.KeepsNodes ∧ ∀ name label, undo ≠ .unlabelNode name label) ∧
      (last = [] ∨ last = [.unlabelNode node.name (roleLabel options)]) := by
  have hothers : ∀ undo ∈ optedIn options,
      undo.KeepsNodes ∧ ∀ name label, undo ≠ .unlabelNode name label := by
    intro undo hmem
    simp only [optedIn, provisioned, List.mem_append, List.mem_cons, List.not_mem_nil,
      or_false] at hmem
    rcases hmem with (rfl | rfl | rfl | rfl | rfl) | rfl
    all_goals simp [Undo.KeepsNodes]
  have hprefix : ∀ {others}, others <+: optedIn options → ∀ undo ∈ others,
      undo.KeepsNodes ∧ ∀ name label, undo ≠ .unlabelNode name label :=
    fun h undo hmem => hothers undo (h.subset hmem)
  cases hrollout : options.rollout with
  | none =>
    have hplan : plan options node = optedIn options := by
      simp [plan, optedIn, borrowed, hrollout]
    rw [hplan] at h
    exact ⟨done, [], (List.append_nil _).symm, hprefix h, .inl rfl⟩
  | some rollout =>
    have hplan : plan options node =
        optedIn options ++ [.unlabelNode node.name (roleLabel options)] := by
      simp [plan, optedIn, borrowed, hrollout, selection, hkeep rollout hrollout, roleLabel]
    rw [hplan] at h
    rcases List.prefix_concat_iff.mp h with rfl | h
    · exact ⟨_, _, rfl, hothers, .inr rfl⟩
    · exact ⟨done, [], (List.append_nil _).symm, hprefix h, .inl rfl⟩

/-- The phases of a run that keeps its node, as its trace and what it registered tell them. -/
structure Kept (options : ScenarioOptions) (target : Option Node) (t : PlaneTrace) (q : Progress) :
    Prop where
  moved : Moved options t target
  same : ∀ e ∈ t, Event.SameNodes e
  keeps : ∀ undo ∈ q.undos, undo.KeepsNodes
  releases : ∀ nodes, q.undos.reverse.foldl (fun nodes undo => undo.releases nodes) nodes =
    target.elim nodes fun node => Function.update nodes node.name
      ((nodes node.name).map (·.erase (roleLabel options)))

theorem kept_of_phases (hkeep : KeepsNode options) {t : PlaneTrace}
    {ending : Outcome (Except Error PhasesOutcome)} {q : Progress}
    (h : (Phased.track (Phases.all options).run {}).Runs t (.returned (ending, q))) :
    ∃ target, Kept options target t q := by
  obtain ⟨target, hmoved⟩ := moved_of_phases h
  obtain ⟨seen, done, node, hplan, hat⟩ := phases_acquire h
  obtain ⟨others, last, rfl, hothers, hlast⟩ := split_of_prefix_plan_kept hkeep hplan
  have hkeeps : ∀ undo ∈ others ++ last, undo.KeepsNodes := by
    intro undo hmem
    rcases List.mem_append.mp hmem with hmem | hmem
    · exact (hothers undo hmem).1
    · rcases hlast with rfl | rfl
      · cases hmem
      · rw [List.mem_singleton.mp hmem]
        trivial
  refine ⟨target, hmoved, fun e he => ⟨fun n hn => ?_, fun n hn => ?_⟩, ?_, ?_⟩
  · have hcreated : .delete .node n ∈ acquisitions options t :=
      mem_acquisitions_delete_iff.mpr ⟨e, he, hn⟩
    rw [hat.acquired] at hcreated
    have hdelete : Undo.KeepsNodes (.delete .node n) := hkeeps _ hcreated
    exact hdelete rfl
  · cases (hat.undeleted e he).symm.trans (Event.deleting?_of_deleted? hn)
  · rwa [hat.registered]
  · intro nodes
    have hacquired : ∀ name, .unlabelNode name (roleLabel options) ∈ others ++ last ↔
        ∃ node, target = some node ∧ node.name = name := by
      intro name
      rw [← hmoved.updated_iff, ← hat.acquired, mem_acquisitions_unlabelNode_iff]
      simp
    -- only the undo of a label changes what the nodes hold, and the others are none
    have hrest : ∀ nodes, others.reverse.foldl (fun nodes undo => undo.releases nodes) nodes = nodes :=
      foldl_releases_of_none fun undo hmem => (hothers undo (List.mem_reverse.mp hmem)).2
    rw [hat.registered, List.reverse_append, List.foldl_append, hrest]
    rcases hlast with rfl | rfl
    · cases target with
      | none => rfl
      | some node =>
        have hmem := (hacquired node.name).mpr ⟨node, rfl, rfl⟩
        rw [List.append_nil] at hmem
        exact absurd rfl ((hothers _ hmem).2 _ _)
    · obtain ⟨chosen, rfl, hname⟩ := (hacquired node.name).mp (by simp)
      rw [Option.elim_some, hname]
      rfl

/-- A run that keeps its node, taken apart as far as the nodes are concerned: the phases, and a teardown
that failed in nothing. -/
theorem kept_of_runs (hkeep : KeepsNode options) (hskip : options.skipCleanup = false) {t : PlaneTrace}
    {result : Except ScenarioFailure ScenarioOutcome} (h : (run options).Runs t (.returned result))
    (hclean : (reportOf result).failed = []) :
    ∃ target phases q attempts, t = phases ++ (attempts.map (·.1)).flatten ∧
      Kept options target phases q ∧
      List.Forall₂ (fun (undo : Undo) (attempt : PlaneTrace × Attempted Unit) =>
        undo.program.Runs attempt.1 attempt.2) q.undos.reverse attempts ∧
      (∀ attempt ∈ attempts, attempt.2 = .returned (.ok ())) ∧
      ∀ n, Phases.NodeLabelled n (roleLabel options) t ↔ ∃ node, target = some node ∧ node.name = n := by
  obtain ⟨phases, ending, q, teardown, cleanup, registry, rfl, hphases, hteardown, ho⟩ :=
    exists_of_runs_run h
  obtain ⟨target, hkept⟩ := kept_of_phases hkeep hphases
  obtain ⟨seen, done, node, hplan, hat⟩ := phases_acquire hphases
  obtain rfl := Outcome.returned.inj ho
  rw [reportOf_conclude] at hclean
  have htorn := Progress.tornDown hteardown
  have hfree := htorn.free (n := node) fun undo hmem => hplan.subset (hat.registered ▸ hmem)
  rw [hskip] at htorn
  cases htorn with
  | attempted attempts each =>
    refine ⟨target, phases, q, attempts, rfl, hkept, each,
      CleanupReport.ok_of_failed_eq_nil each.length_eq hclean, fun n => ?_⟩
    rw [← hkept.moved.nodeLabelled_iff]
    constructor
    · rintro ⟨e, he, v, hlabels⟩
      rcases List.mem_append.mp he with he | he
      · exact ⟨e, he, v, hlabels⟩
      · exact absurd hlabels ((hfree e he).role _ _)
    · rintro ⟨e, he, v, hlabels⟩
      exact ⟨e, List.mem_append_left _ he, v, hlabels⟩

/-- The labels that are left: the node that was moved is without the label of the pool, and everything
else is as it was. -/
theorem labels_of_kept {target : Option Node} {phases : PlaneTrace} {q : Progress}
    (hkept : Kept options target phases q) {attempts : List (PlaneTrace × Attempted Unit)}
    (heach : List.Forall₂ (fun (undo : Undo) (attempt : PlaneTrace × Attempted Unit) =>
      undo.program.Runs attempt.1 attempt.2) q.undos.reverse attempts)
    (hok : ∀ attempt ∈ attempts, attempt.2 = .returned (.ok ()))
    {nodes : String → Option (StringMap String)}
    (hshow : AllShow Node.labels (phases ++ (attempts.map (·.1)).flatten) nodes) :
    viewedAfter Node.labels (phases ++ (attempts.map (·.1)).flatten) nodes =
      target.elim nodes fun node => Function.update nodes node.name
        ((nodes node.name).map (·.erase (roleLabel options))) := by
  have hkeeps : ∀ undo ∈ q.undos.reverse, undo.KeepsNodes := fun undo hmem =>
    hkept.keeps undo (List.mem_reverse.mp hmem)
  rw [viewedAfter_append, viewedAfter_of_attempts heach hkeeps hok hshow.right, hkept.releases]
  obtain ⟨hnobody, hnode⟩ := hkept.moved.labels hkept.same hshow.left
  cases target with
  | none => exact hnobody rfl
  | some node =>
    obtain ⟨labels, hlabels, hinsert⟩ := hnode node rfl
    simp only [Option.elim_some]
    rw [hinsert, Function.update_self, Function.update_idem, hlabels]
    refine congrArg (Function.update nodes node.name) (congrArg some ?_)
    exact StringMap.erase_insert labels _ _

/-- The run has put the label of the pool on a node that had it already. -/
def LabelledAgain (options : ScenarioOptions) (t : PlaneTrace)
    (before : String → Option (StringMap String)) (n : String) : Prop :=
  Phases.NodeLabelled n (roleLabel options) t ∧
    ∃ labels, before n = some labels ∧ roleLabel options ∈ labels

variable {ρ : Kind → Type} {ε : Type}

/-- After a run that keeps its node and whose teardown fails in nothing, the labels of the nodes are what
they were before, except for a node that was in the pool already when the run moved it there: that node
is no longer in the pool. As long as every node goes by its own name, this can only be the node that the
options ask for. -/
theorem nodeLabels_of_run (hkeep : KeepsNode options) (hskip : options.skipCleanup = false)
    {w w' : World (Rehearsal.Cluster ρ ε)} (hlabels : w.plane.nodes.memory.Keeps Node.labels)
    {result : Except ScenarioFailure ScenarioOutcome}
    (hrun : (run options).runIn Rehearsal.Cluster.serve w = (.returned result, w'))
    (hclean : (reportOf result).failed = []) :
    (∀ n, w'.plane.nodeLabels n = w.plane.nodeLabels n ↔
      ¬LabelledAgain options ((run options).trace (World.reply Rehearsal.Cluster.serve) w)
        w.plane.nodeLabels n) ∧
    (∀ n, LabelledAgain options ((run options).trace (World.reply Rehearsal.Cluster.serve) w)
        w.plane.nodeLabels n →
      w'.plane.nodeLabels n = (w.plane.nodeLabels n).map (·.erase (roleLabel options))) ∧
    (w.plane.nodes.memory.Keeps Node.nameAndLabels →
      OwnNames (w.plane.nodes.memory.viewed Node.nameAndLabels) →
      ∀ n, LabelledAgain options ((run options).trace (World.reply Rehearsal.Cluster.serve) w)
        w.plane.nodeLabels n → options.targetNodes.head? = some n) := by
  have hruns := Program.runs_trace (World.reply Rehearsal.Cluster.serve) (run options) w
  have hpath := Program.path_trace (World.reply Rehearsal.Cluster.serve) (run options) w
  rw [show (run options).run (World.reply Rehearsal.Cluster.serve) w = (.returned result, w') from hrun]
    at hruns hpath
  obtain ⟨hafter, hshow⟩ := Rehearsal.Cluster.viewed_of_path hpath hlabels
  obtain ⟨target, phases, q, attempts, ht, hkept, heach, hok, hlabelled⟩ :=
    kept_of_runs hkeep hskip hruns hclean
  generalize (run options).trace (World.reply Rehearsal.Cluster.serve) w = t at *
  subst ht
  rw [labels_of_kept hkept heach hok hshow] at hafter
  simp only [Rehearsal.Cluster.nodeLabels, LabelledAgain, hafter, hlabelled]
  refine ⟨fun n => ?_, ?_, ?_⟩
  · cases target with
    | none => simp
    | some node =>
      by_cases hn : node.name = n
      · subst hn
        cases hnode : w.plane.nodes.memory.viewed Node.labels node.name with
        | none => simp [hnode]
        | some labels => simp [hnode, StringMap.erase_eq_self_iff]
      · simp [hn, Function.update_of_ne (Ne.symm hn)]
  · rintro _ ⟨⟨node, rfl, rfl⟩, -⟩
    exact Function.update_self _ _ _
  · rintro hkeeps hnames _ ⟨⟨node, rfl, rfl⟩, labels, hnode, hlabel⟩
    obtain ⟨-, hshowNames⟩ := Rehearsal.Cluster.viewed_of_path hpath hkeeps
    obtain ⟨entry, hentry, rfl⟩ := Option.map_eq_some_iff.mp hnode
    have hviewed : w.plane.nodes.memory.viewed Node.nameAndLabels node.name =
        some entry.object.nameAndLabels := Option.map_eq_some_iff.mpr ⟨entry, hentry, rfl⟩
    have hname : entry.object.name = node.name := hnames _ _ _ hviewed
    have hstored : w.plane.nodes.memory.viewed Node.nameAndLabels node.name =
        some (node.name, entry.object.labels) := by
      rw [hviewed, Node.nameAndLabels, hname]
    exact hkept.moved.asked_for hnames hkept.same hshowNames.left hstored
      (Std.ExtTreeMap.mem_iff_contains.mp hlabel)

def onWorker : ScenarioOptions where
  name := "demo"
  builderType := .openshiftImageBuilder
  rollout := some { verifyCommand := ["true"], deleteNode := false }
  targetNodes := ["worker-0"]

/-- Whether the node has the label of the pool after a run that passed with a clean teardown. -/
def passesOn (labels : StringMap String) : Option Bool :=
  match (run onWorker).runIn Rehearsal.Cluster.serve (.start (oneWorker labels)) with
  | (.returned (.ok outcome), w') =>
    if outcome.cleanup.isClean then
      (w'.plane.nodeLabels "worker-0").map (·.contains (roleLabel onWorker))
    else none
  | _ => none

theorem exists_of_passesOn {labels : StringMap String} {labelled : Bool}
    (h : passesOn labels = some labelled) :
    ∃ outcome w', (run onWorker).runIn Rehearsal.Cluster.serve (.start (oneWorker labels)) =
        (.returned (.ok outcome), w') ∧ outcome.cleanup.failed = [] ∧
      (w'.plane.nodeLabels "worker-0").map (·.contains (roleLabel onWorker)) = some labelled := by
  unfold passesOn at h
  split at h
  · rename_i outcome w' hrun
    split at h
    · rename_i hclean
      exact ⟨outcome, w', hrun, List.isEmpty_iff.mp hclean, h⟩
    · cases h
  · cases h

theorem keepsNode_onWorker : KeepsNode onWorker := by
  rintro _ ⟨⟩
  rfl

/-- A node that was not in the pool has the labels that it had. -/
theorem nodeLabels_of_run_unlabelled :
    ∃ outcome w', (run onWorker).runIn Rehearsal.Cluster.serve (.start (oneWorker ∅)) =
        (.returned (.ok outcome), w') ∧
      outcome.cleanup.failed = [] ∧ w'.plane.nodeLabels = (oneWorker ∅).nodeLabels := by
  have hpasses : passesOn ∅ = some false := by
    unfold passesOn
    rw [run_eq rfl]
    rfl
  obtain ⟨outcome, w', hrun, hclean, -⟩ := exists_of_passesOn hpasses
  refine ⟨outcome, w', hrun, hclean, funext fun n => ?_⟩
  refine ((nodeLabels_of_run keepsNode_onWorker rfl (fun _ h => by cases h) hrun hclean).1 n).mpr ?_
  rintro ⟨-, labels, hlabels, hmem⟩
  have hnodes : (oneWorker ∅).nodeLabels = Function.update (fun _ => none) "worker-0" (some ∅) :=
    MemoryStore.viewed_commit _ _
  change (oneWorker ∅).nodeLabels n = some labels at hlabels
  rw [hnodes] at hlabels
  by_cases hn : n = "worker-0"
  · rw [hn, Function.update_self] at hlabels
    cases hlabels
    exact absurd hmem Std.ExtTreeMap.not_mem_empty
  · rw [Function.update_of_ne hn] at hlabels
    cases hlabels

/-- A node that was in the pool before the run is not in it any more. -/
theorem nodeLabels_lost_of_run :
    ∃ (scenario : ScenarioOptions) (c : Rehearsal.Cluster) (outcome : ScenarioOutcome)
      (w' : World Rehearsal.Cluster),
      KeepsNode scenario ∧ scenario.skipCleanup = false ∧ c.nodes.memory.reconciler = none ∧
      (run scenario).runIn Rehearsal.Cluster.serve (.start c) = (.returned (.ok outcome), w') ∧
      outcome.cleanup.failed = [] ∧
      w'.plane.nodeLabels "worker-0" ≠ c.nodeLabels "worker-0" := by
  have hpasses : passesOn (.ofList [(roleLabel onWorker, "")]) = some false := by
    unfold passesOn
    rw [run_eq rfl]
    rfl
  obtain ⟨outcome, w', hrun, hclean, hafter⟩ := exists_of_passesOn hpasses
  refine ⟨onWorker, _, outcome, w', keepsNode_onWorker, rfl, rfl, hrun, hclean, fun hsame => ?_⟩
  have hbefore : ((oneWorker (.ofList [(roleLabel onWorker, "")])).nodeLabels "worker-0").map
      (·.contains (roleLabel onWorker)) = some true := rfl
  rw [hsame, hbefore] at hafter
  cases hafter

end Scenario

end BuildTrial
