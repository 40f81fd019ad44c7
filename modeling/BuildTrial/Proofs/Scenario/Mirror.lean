import BuildTrial.Proofs.Scenario.Ledger
import BuildTrial.Proofs.Scenario.Teardown
import Mathlib.Algebra.Ring.Nat
import Mathlib.Data.List.Forall2

/-!
# Teardown mirrors acquisition

Whatever the control plane replies, and wherever the phases stop, the teardown of a run attempts one
undoing for each acquisition of the phases, in the reverse of their order, and nothing else
(`teardown_mirrors_acquisition`). Two consequences of the order are a part of the result. Nothing of
a kind that the scenario creates is touched unless the run created it. And the resources that the pool
depends on go last: once the first of them is deleted there are only deletions left, so the label that
makes the controller build is off, or was tried to be taken off, by then. An attempt to take a label
off writes nothing but what it has just read, less that label (`Undo.Unlabels`).
-/

namespace BuildTrial

/-- An update that tolerates conflicts changes one object, and creates and deletes none. -/
theorem Mutate.Settled.changed {k : Kind} {name : String} {s : StoreTrace k.Model}
    {o : Outcome (Except Error (Versioned k.Model))} (h : Settled name s o) {e : PlaneEvent}
    (he : e ∈ s.map (Event.onPlane k)) :
    e.created? = none ∧ e.deleting? = none ∧
      ∀ target, e.updating? = some target → target = (k, name) := by
  have hvain : ∀ e' : StoreEvent k.Model, Vain name e' →
      (e'.onPlane k).created? = none ∧ (e'.onPlane k).deleting? = none ∧
        ∀ target, (e'.onPlane k).updating? = some target → target = (k, name) := by
    intro e' he'
    cases he' with
    | update desired expected reply _ => exact ⟨rfl, rfl, fun _ h => (Option.some.inj h).symm⟩
    | _ => exact ⟨rfl, rfl, fun _ h => by cases h⟩
  obtain ⟨e', hmem, rfl⟩ := List.mem_map.mp he
  cases h with
  | committed vain desired expected v =>
    rcases List.mem_append.mp hmem with hmem | hmem
    · exact hvain e' (vain e' hmem)
    · obtain rfl := List.mem_singleton.mp hmem
      exact ⟨rfl, rfl, fun _ h => (Option.some.inj h).symm⟩
  | failed vain _ => exact hvain e' (vain e' hmem)

namespace Undo

/-- Whether the undoing deletes something that the phases created. -/
def isDelete : Undo → Bool
  | .delete .. => true
  | _ => false

/-- What one attempt at an undoing may delete: what it is to delete, or the node that it is to destroy and
the machine behind it. -/
theorem Performed.of_deleting {undo : Undo} {t : PlaneTrace} (h : Performed undo t) {e : PlaneEvent}
    (he : e ∈ t) {kind : Kind} {name : String} (hdelete : e.deleting? = some (kind, name)) :
    undo = .delete kind name ∨ ∃ n machine, undo = .deleteNode n machine ∧
      (kind = .node ∧ name = n ∨ kind = .machine ∧ machine = some name) := by
  cases h with
  | delete kind' name' reply =>
    obtain rfl := List.mem_singleton.mp he
    cases hdelete
    exact .inl rfl
  | unlabelPool hs =>
    -- taking a label off deletes nothing
    rw [((mutate_settled hs).changed (k := .pool) he).2.1] at hdelete
    cases hdelete
  | unlabelNode hs =>
    rw [((mutate_settled hs).changed (k := .node) he).2.1] at hdelete
    cases hdelete
  | nodeOnly name' machine reply _ =>
    obtain rfl := List.mem_singleton.mp he
    cases hdelete
    exact .inr ⟨_, _, rfl, .inl ⟨rfl, rfl⟩⟩
  | nodeAndMachine name' machine reply reply' _ =>
    simp only [List.mem_cons, List.not_mem_nil, or_false] at he
    rcases he with rfl | rfl <;> cases hdelete
    · exact .inr ⟨_, _, rfl, .inl ⟨rfl, rfl⟩⟩
    · exact .inr ⟨_, _, rfl, .inr ⟨rfl, rfl⟩⟩

/-- What one attempt at an undoing may delete among the fixtures. -/
theorem Performed.deleted {undo : Undo} {t : PlaneTrace} (h : Performed undo t) {e : PlaneEvent}
    (he : e ∈ t) {kind : Kind} {name : String} (hdelete : e.deleting? = some (kind, name))
    (hkind : kind.isFixture) : undo = .delete kind name := by
  rcases h.of_deleting he hdelete with hundo | ⟨_, _, -, ⟨rfl, -⟩ | ⟨rfl, -⟩⟩
  · exact hundo
  · cases hkind
  · cases hkind

/-- What one attempt at an undoing may update among the fixtures. -/
theorem Performed.updated {undo : Undo} {t : PlaneTrace} (h : Performed undo t) {e : PlaneEvent}
    (he : e ∈ t) {kind : Kind} {name : String} (hupdate : e.updating? = some (kind, name))
    (hkind : kind.isFixture) : kind = .pool ∧ ∃ label, undo = .unlabelPool name label := by
  cases h with
  | delete kind' name' reply =>
    obtain rfl := List.mem_singleton.mp he
    cases hupdate
  | unlabelPool hs =>
    cases ((mutate_settled hs).changed (k := .pool) he).2.2 _ hupdate
    exact ⟨rfl, _, rfl⟩
  | unlabelNode hs =>
    cases ((mutate_settled hs).changed (k := .node) he).2.2 _ hupdate
    cases hkind
  | nodeOnly name' machine reply _ =>
    obtain rfl := List.mem_singleton.mp he
    cases hupdate
  | nodeAndMachine name' machine reply reply' _ =>
    simp only [List.mem_cons, List.not_mem_nil, or_false] at he
    rcases he with rfl | rfl <;> cases hupdate

/-- An attempt at deleting what was created asks nothing else. -/
theorem Performed.onlyDeletes {undo : Undo} {t : PlaneTrace} (h : Performed undo t)
    (hundo : undo.isDelete) : ∀ e ∈ t, (Event.deleting? e).isSome := by
  cases h with
  | delete kind name reply =>
    rw [List.forall_mem_singleton]
    rfl
  | _ => cases hundo

/-- The event is no update of an object of this kind, or it stores what was read right before it, less
the label. -/
def Unlabels (k : Kind) [Labelled k.Model] (name label : String) (before : PlaneTrace)
    (e : PlaneEvent) : Prop :=
  ∀ n desired expected reply, e = ⟨.call (.store k (.update n desired expected)), reply⟩ →
    n = name ∧ ∃ v : Versioned k.Model,
      before.getLast? = some ⟨.call (.store k (.get name)), .returned (.ok v)⟩ ∧
        desired = removeLabel label v.object ∧ expected = v.version

theorem unlabels_of_runs {k : Kind} [Labelled k.Model] {name label : String} {config : RetryConfig}
    {s : StoreTrace k.Model} {o : Outcome (Except Error (Versioned k.Model))}
    (h : (mutate name config fun object : k.Model => .returned (removeLabel label object)).Runs
      s o) : Program.Throughout (Unlabels k name label) (s.map (Event.onPlane k)) := by
  rintro before e after heq n desired expected reply rfl
  obtain ⟨s, rest, rfl, rfl, hrest⟩ := List.map_eq_append_iff.mp heq
  obtain ⟨e, rest, rfl, he, -⟩ := List.map_eq_cons_iff.mp hrest
  cases mutate_follows h s e rest rfl with
  | update current desired' edit shown reply' =>
    cases edit
    cases he
    refine ⟨rfl, current, ?_, rfl, rfl⟩
    rw [List.getLast?_map, shown]
    rfl
  | _ => cases he

/-- An attempt to take a label off a pool writes nothing but what it has just read, less the label. -/
theorem Performed.unlabels_pool {name label : String} {t : PlaneTrace}
    (h : Performed (.unlabelPool name label) t) :
    Program.Throughout (Unlabels .pool name label) t := by
  cases h with
  | unlabelPool hs => exact unlabels_of_runs (k := .pool) hs

/-- An attempt to take a label off a node writes nothing but what it has just read, less the label. -/
theorem Performed.unlabels_node {name label : String} {t : PlaneTrace}
    (h : Performed (.unlabelNode name label) t) :
    Program.Throughout (Unlabels .node name label) t := by
  cases h with
  | unlabelNode hs => exact unlabels_of_runs (k := .node) hs

/-- Each write of an attempt to take a label off a pool lacks the label. -/
theorem Performed.lacks_pool {name label : String} {t : PlaneTrace}
    (h : Performed (.unlabelPool name label) t) {n expected : String} {desired : Pool}
    {reply : Attempted (Versioned Pool)}
    (he : ⟨.call (.store .pool (.update n desired expected)), reply⟩ ∈ t) :
    desired.labels.contains label = false := by
  obtain ⟨before, after, ht⟩ := List.append_of_mem he
  obtain ⟨-, v, -, rfl, -⟩ := h.unlabels_pool _ _ _ ht n desired expected reply rfl
  show (v.object.labels.erase label).contains label = false
  simp

/-- Each write of an attempt to take a label off a node lacks the label. -/
theorem Performed.lacks_node {name label : String} {t : PlaneTrace}
    (h : Performed (.unlabelNode name label) t) {n expected : String} {desired : Node}
    {reply : Attempted (Versioned Node)}
    (he : ⟨.call (.store .node (.update n desired expected)), reply⟩ ∈ t) :
    desired.labels.contains label = false := by
  obtain ⟨before, after, ht⟩ := List.append_of_mem he
  obtain ⟨-, v, -, rfl, -⟩ := h.unlabels_node _ _ _ ht n desired expected reply rfl
  show (v.object.labels.erase label).contains label = false
  simp

end Undo

namespace CleanupReport

/-- A teardown attempts each of its undoings once, in order, whatever happens to the others. -/
theorem performed_of_runs {undos : List Undo} {report : CleanupReport} {t : PlaneTrace}
    {o : Outcome CleanupReport} (h : (carryOut (undos.map Undo.action) report).Runs t o) :
    ∃ attempts, t = attempts.flatten ∧ List.Forall₂ Undo.Performed undos attempts := by
  induction undos generalizing report t with
  | nil =>
    obtain ⟨rfl, -⟩ := Program.runs_done_iff.mp h
    exact ⟨[], rfl, .nil⟩
  | cons undo undos ih =>
    obtain ⟨t₁, o₁, t₂, rfl, h₁, h₂⟩ := runs_carryOut_cons_iff.mp h
    obtain ⟨attempts, rfl, hall⟩ := ih h₂
    exact ⟨t₁ :: attempts, rfl, .cons (Undo.performed_of_runs h₁) hall⟩

end CleanupReport

/-! ## The order of the plan -/

namespace Scenario

variable {options : ScenarioOptions} {node : Node} {done : List Undo}

theorem isDelete_of_mem_provisioned {undo : Undo} (h : undo ∈ provisioned options) :
    undo.isDelete := by
  simp only [provisioned, List.mem_cons, List.not_mem_nil, or_false] at h
  rcases h with rfl | rfl | rfl | rfl | rfl <;> rfl

theorem eq_of_mem_borrowed {undo : Undo} (h : undo ∈ borrowed options node) :
    undo = .unlabelPool options.poolName layeringLabel ∨
      undo = .deleteNode node.name node.machine ∨
      undo = .unlabelNode node.name (nodeRoleLabel options.poolName) := by
  rcases List.mem_cons.mp h with rfl | h
  · exact .inl rfl
  · split at h
    · rcases List.mem_append.mp h with h | h
      · exact .inr (.inl (eq_deleteNode_of_selection (Option.mem_toList.mp h)))
      · exact .inr (.inr (List.mem_singleton.mp h))
    · cases h

theorem not_isDelete_of_mem_borrowed {undo : Undo} (h : undo ∈ borrowed options node) :
    undo.isDelete = false := by
  rcases eq_of_mem_borrowed h with rfl | rfl | rfl <;> rfl

/-- What the phases acquire is creations first; all of them are there before anything else is
acquired. -/
theorem split_of_prefix_plan (h : done <+: plan options node) :
    ∃ creations later, done = creations ++ later ∧ (∀ undo ∈ creations, undo.isDelete) ∧
      (∀ undo ∈ later, undo.isDelete = false) ∧
      ∀ name label, .unlabelPool name label ∈ later → .delete .pool name ∈ creations := by
  rcases List.prefix_or_prefix_of_prefix h (List.prefix_append _ _) with hshort | ⟨later, rfl⟩
  · refine ⟨done, [], (List.append_nil _).symm, ?_, by simp, by simp⟩
    exact fun undo hmem => isDelete_of_mem_provisioned (hshort.subset hmem)
  · have hlater : later <+: borrowed options node := List.prefix_append_right_inj _ |>.mp h
    refine ⟨provisioned options, later, rfl, fun _ => isDelete_of_mem_provisioned, ?_, ?_⟩
    · exact fun undo hmem => not_isDelete_of_mem_borrowed (hlater.subset hmem)
    · intro name label hmem
      rcases eq_of_mem_borrowed (hlater.subset hmem) with h | h | h <;> cases h
      simp [provisioned]

/-- What a teardown costs at most: two labels and a node with its machine are to be given back, and
five creations to be deleted. -/
theorem cost_of_prefix_plan (h : done <+: plan options node) :
    (done.map Undo.pauses).sum ≤ 8 ∧ (done.map Undo.calls).sum ≤ 27 := by
  have hplan : ((plan options node).map Undo.pauses).sum ≤ 8 ∧
      ((plan options node).map Undo.calls).sum ≤ 27 := by
    cases hrollout : options.rollout with
    | none => simp [plan, provisioned, borrowed, hrollout, Undo.pauses, Undo.calls]
    | some rollout =>
      cases hselection : selection options node with
      | none => simp [plan, provisioned, borrowed, hrollout, hselection, Undo.pauses, Undo.calls]
      | some undo =>
        rw [eq_deleteNode_of_selection hselection] at hselection
        simp [plan, provisioned, borrowed, hrollout, hselection, Undo.pauses, Undo.calls]
  obtain ⟨rest, hrest⟩ := h
  rw [← hrest, List.map_append, List.map_append, List.sum_append, List.sum_append] at hplan
  omega

/-! ## The mirror -/

/-- Once the run tries to delete a fixture, all that it still asks for are deletions. -/
def DeletionsLast (t : PlaneTrace) : Prop :=
  ∀ s e u kind name, t = s ++ e :: u → e.deleting? = some (kind, name) → kind.isFixture →
    ∀ e' ∈ u, (Event.deleting? e').isSome

theorem deletionsLast_append {t u : PlaneTrace}
    (ht : ∀ e ∈ t, ∀ kind name, Event.deleting? e = some (kind, name) → kind.isFixture = false)
    (hu : ∀ e ∈ u, (Event.deleting? e).isSome) : DeletionsLast (t ++ u) := by
  intro s e rest kind name heq hdelete hkind e' he'
  have hpast : e ∉ t := by
    intro he
    rw [ht e he kind name hdelete] at hkind
    cases hkind
  rcases Program.exists_of_append_eq_append_cons heq with ⟨a, rfl, -⟩ | ⟨a, rfl, rfl⟩
  · exact absurd (by simp) hpast
  · exact hu e' (by simp [he'])

/-- The events of the attempts belong to attempts at undoings. -/
theorem exists_performed_of_mem {undos : List Undo} {attempts : List PlaneTrace}
    (h : List.Forall₂ Undo.Performed undos attempts) {e : PlaneEvent} (he : e ∈ attempts.flatten) :
    ∃ undo ∈ undos, ∃ t, Undo.Performed undo t ∧ e ∈ t := by
  induction h with
  | nil => simp at he
  | @cons undo t undos attempts hperformed _ ih =>
    rw [List.flatten_cons] at he
    rcases List.mem_append.mp he with he | he
    · exact ⟨undo, List.mem_cons_self, t, hperformed, he⟩
    · obtain ⟨undo', hmem, t', h⟩ := ih he
      exact ⟨undo', List.mem_cons_of_mem _ hmem, t', h⟩

/-- A teardown that first gives back what was borrowed and then deletes what was created deletes last, if
nothing was deleted before it. -/
theorem deletionsLast_of_performed {creations later : List Undo} {phases : PlaneTrace}
    {attempts : List PlaneTrace} (hphases : ∀ e ∈ phases, Event.deleting? e = none)
    (hcreations : ∀ undo ∈ creations, undo.isDelete)
    (hlater : ∀ undo ∈ later, undo.isDelete = false)
    (hall : List.Forall₂ Undo.Performed (creations ++ later).reverse attempts) :
    DeletionsLast (phases ++ attempts.flatten) := by
  rw [List.reverse_append] at hall
  have hfirst := List.forall₂_take later.reverse.length hall
  have hlast := List.forall₂_drop later.reverse.length hall
  rw [List.take_left] at hfirst
  rw [List.drop_left] at hlast
  rw [← List.take_append_drop later.reverse.length attempts, List.flatten_append,
    ← List.append_assoc]
  refine deletionsLast_append ?_ ?_
  · intro e he kind name hdelete
    rcases List.mem_append.mp he with he | he
    · rw [hphases e he] at hdelete
      cases hdelete
    · obtain ⟨undo, hmem, t, hperformed, he⟩ := exists_performed_of_mem hfirst he
      by_contra hkind
      have hundo := hperformed.deleted he hdelete (by simpa using hkind)
      have := hlater undo (List.mem_reverse.mp hmem)
      rw [hundo] at this
      cases this
  · intro e he
    obtain ⟨undo, hmem, t, hperformed, he⟩ := exists_performed_of_mem hlast he
    exact hperformed.onlyDeletes (hcreations undo (List.mem_reverse.mp hmem)) e he

/-- A run that cleans up goes through its phases and then attempts one undoing for each acquisition
of the phases, in reverse order, whatever the control plane replies to any call. All along, it updates
and deletes only fixtures that it created; and from its first deletion of a fixture on, it only
deletes, so the attempt to take the layering label off the pool is over by then. -/
theorem teardown_mirrors_acquisition {options : ScenarioOptions}
    (hskip : options.skipCleanup = false) {t : PlaneTrace}
    {o : Outcome (Except ScenarioFailure ScenarioOutcome)} (h : (run options).Runs t o) :
    ∃ phases ending attempts, t = phases ++ attempts.flatten ∧
      (Phased.track (Phases.all options).run {}).Runs phases (.returned ending) ∧
      List.Forall₂ Undo.Performed (acquisitions options phases).reverse attempts ∧
      Owned t ∧ DeletionsLast t := by
  obtain ⟨phases, ending, q, teardown, cleanup, rfl, hphases, hteardown, -⟩ := runs_run hskip h
  obtain ⟨seen, done, node, hplan, hat⟩ := phases_acquire hphases
  obtain ⟨attempts, rfl, hall⟩ := CleanupReport.performed_of_runs hteardown
  rw [hat.registered] at hall
  obtain ⟨creations, later, rfl, hcreations, hlater, hpool⟩ := split_of_prefix_plan hplan
  refine ⟨phases, (ending, q), attempts, rfl, hphases, by rwa [hat.acquired], ?_,
    deletionsLast_of_performed hat.undeleted hcreations hlater hall⟩
  refine hat.owned.append ?_
  intro e he kind name hchange hkind
  obtain ⟨undo, hmem, t, hperformed, he⟩ := exists_performed_of_mem hall he
  rw [List.mem_reverse] at hmem
  refine hat.created ?_
  rcases hchange with hupdate | hdelete
  · obtain ⟨rfl, label, rfl⟩ := hperformed.updated he hupdate hkind
    rcases List.mem_append.mp hmem with hmem | hmem
    · cases hcreations _ hmem
    · exact List.mem_append_left _ (hpool _ _ hmem)
  · rwa [← hperformed.deleted he hdelete hkind]

/-- A run through the rollout gives back the label and the node, the label of the pool and all five
creations, the last first, and passes. -/
theorem teardown_mirrors_acquisition_rollout :
    ∃ t outcome phases ending attempts,
      t = (run deletesWorker).trace replies (.start (contestedWorker 0)) ∧
      ((run deletesWorker).run replies (.start (contestedWorker 0))).1 = .returned (.ok outcome) ∧
      t = phases ++ attempts.flatten ∧
      (Phased.track (Phases.all deletesWorker).run {}).Runs phases (.returned ending) ∧
      (acquisitions deletesWorker phases).reverse =
        [.unlabelNode "worker-0" (nodeRoleLabel "layered"),
          .deleteNode "worker-0" (some "machine-0"), .unlabelPool "layered" layeringLabel,
          .delete .configMap Dockerfiles.mapName, .delete .pool "layered",
          .delete .configMap BuildConfiguration.mapName, .delete .secret pullSecretCloneName,
          .delete .imageRepository imageRepositoryName] ∧
      List.Forall₂ Undo.Performed (acquisitions deletesWorker phases).reverse attempts ∧
      Owned t ∧ DeletionsLast t := by
  obtain ⟨phases, ending, attempts, ht, hphases, hmirror⟩ := teardown_mirrors_acquisition rfl
    (Program.runs_trace replies (run deletesWorker) (.start (contestedWorker 0)))
  have hpasses : ∃ outcome,
      ((run deletesWorker).run replies (.start (contestedWorker 0))).1 = .returned (.ok outcome) := by
    rw [run_eq rfl]
    exact ⟨_, rfl⟩
  obtain ⟨outcome, hpasses⟩ := hpasses
  -- the phases are those that the cluster is seen to go through
  have hstart : ∃ u, (run deletesWorker).trace replies (.start (contestedWorker 0)) =
      (Phased.track (Phases.all deletesWorker).run {}).trace replies (.start (contestedWorker 0)) ++
        u := by
    rw [run_eq rfl, Program.trace_bind]
    exact ⟨_, rfl⟩
  obtain ⟨u, hstart⟩ := hstart
  obtain ⟨hsame, -, -⟩ :=
    hphases.unique (Program.runs_trace replies _ _) (ht.symm.trans hstart)
  refine ⟨_, outcome, phases, ending, attempts, rfl, hpasses, ht, hphases, ?_, hmirror⟩
  rw [hsame]
  rfl

end Scenario

end BuildTrial
