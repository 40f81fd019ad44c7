import BuildTrial.Proofs.Rehearsal.NodeViews
import BuildTrial.Proofs.Scenario.Gating

/-!
# The node that a run moves into the pool

The phases update at most one node, and once: they read it, and right after the read they store it with
the label of the pool put on it (`Moved`). Which node that is was settled before. A random candidate is
looked at first and must not have the label yet; a node that was asked for by name is taken as it is
(`Chosen`).
-/

namespace BuildTrial

variable {β : Type}

namespace Event

theorem updatedNode?_of_updating {e : PlaneEvent} (h : ∀ n, e.updating? ≠ some (.node, n)) :
    e.updatedNode? = none := by
  unfold updatedNode?
  split
  · exact absurd rfl (h _)
  · rfl

theorem updatedNode?_of_within {labels : List Kind} (hlabels : .node ∉ labels) {e : PlaneEvent}
    (h : e.Within labels) : e.updatedNode? = none :=
  updatedNode?_of_updating fun _ hn => hlabels (h.2 _ _ hn)

/-- A question of an update that stores nothing. -/
theorem still_of_vain {name : String} {e : StoreEvent Node} (h : Mutate.Vain name e) :
    (e.onPlane .node).updatedNode? = none ∧ (e.onPlane .node).SameNodes := by
  cases h with
  | update desired expected reply h =>
    refine ⟨?_, nofun, nofun⟩
    rcases reply with (e | v) | payload
    · rfl
    · exact absurd rfl (h v)
    · rfl
  | _ => exact ⟨rfl, nofun, nofun⟩

end Event

/-- What an update of a node that went well makes of what is viewed. -/
theorem Mutate.Edited.viewed {name : String} {f : Node → Node} {s : StoreTrace Node}
    {v : Versioned Node}
    (h : Edited name (fun node => .returned (f node)) s (.returned (.ok v))) {view : Node → β}
    {nodes : String → Option β} (hshow : AllShow view (s.map (Event.onPlane .node)) nodes) :
    ∃ node, nodes name = some (view node) ∧
      viewedAfter view (s.map (Event.onPlane .node)) nodes =
        Function.update nodes name (some (view (f node))) := by
  cases h with
  | @committed s vain current desired edit _ =>
    obtain rfl := Outcome.returned.inj edit
    have hbefore : viewedAfter view (s.map (Event.onPlane .node)) nodes = nodes :=
      viewedAfter_of_still (List.forall_mem_map.mpr fun e he => (Event.still_of_vain (vain e he)).1)
        (List.forall_mem_map.mpr fun e he => (Event.still_of_vain (vain e he)).2) view nodes
    rw [List.map_append] at hshow ⊢
    have hread := hshow _ _ _ rfl
    rw [hbefore] at hread
    refine ⟨current.object, hread, ?_⟩
    rw [viewedAfter_append, hbefore]
    rfl
  | failed _ hfail => exact absurd rfl (hfail v)

/-! ## The choice -/

def Node.nameAndLabels (node : Node) : String × StringMap String := (node.name, node.labels)

/-- Every node is stored under its own name. -/
def OwnNames (nodes : String → Option (String × StringMap String)) : Prop :=
  ∀ n name labels, nodes n = some (name, labels) → name = n

namespace Scenario

/-- The label that puts a node into the pool of the scenario. -/
def roleLabel (options : ScenarioOptions) : String := nodeRoleLabel options.poolName

/-- The node is one of the nodes, as it was when the trace began. If it had the label of the pool
already, it is the one that was asked for. -/
def Chosen (options : ScenarioOptions) (node : Node) (t : PlaneTrace) : Prop :=
  ∀ nodes, OwnNames nodes → AllShow Node.nameAndLabels t nodes → (∀ e ∈ t, Event.SameNodes e) →
    nodes node.name = some node.nameAndLabels ∧
      (node.labels.contains (roleLabel options) →
        options.targetNodes.head? = some node.name)

theorem Chosen.append {options : ScenarioOptions} {node : Node} {t : PlaneTrace}
    (h : Chosen options node t) (u : PlaneTrace) : Chosen options node (t ++ u) := by
  intro nodes hnames hshow hsame
  exact h nodes hnames hshow.left fun e he => hsame e (List.mem_append_left u he)

/-- What the phases have done to the nodes so far: nothing, or they have put the label of the pool on
one of them. -/
inductive Moved (options : ScenarioOptions) : PlaneTrace → Option Node → Prop where
  | nobody {t : PlaneTrace} (still : ∀ e ∈ t, Event.updatedNode? e = none) : Moved options t none
  | node {s u : PlaneTrace} (node : Node) (chosen : Chosen options node s)
      (current : Versioned Node) (expected : String) (v : Versioned Node)
      (before : ∀ e ∈ s, Event.updatedNode? e = none)
      (after : ∀ e ∈ u, Event.updatedNode? e = none) :
      Moved options (s ++ [⟨.call (.store .node (.get node.name)), .returned (.ok current)⟩,
        ⟨.call (.store .node (.update node.name (addLabel (roleLabel options) current.object)
          expected)), .returned (.ok v)⟩] ++ u) (some node)

variable {options : ScenarioOptions} {t u : PlaneTrace} {moved : Option Node}

theorem Moved.append (h : Moved options t moved) (hu : ∀ e ∈ u, Event.updatedNode? e = none) :
    Moved options (t ++ u) moved := by
  cases h with
  | nobody still =>
    refine .nobody fun e he => ?_
    rcases List.mem_append.mp he with he | he
    · exact still e he
    · exact hu e he
  | node node chosen current expected v before after =>
    rw [List.append_assoc]
    refine .node node chosen current expected v before fun e he => ?_
    rcases List.mem_append.mp he with he | he
    · exact after e he
    · exact hu e he

theorem Moved.still (h : Moved options t none) : ∀ e ∈ t, Event.updatedNode? e = none := by
  cases h with
  | nobody still => exact still

open Phased Phases

theorem leads_selectNode_chosen {ctx : ScenarioContext} {rollout : RolloutOptions} :
    Leads (fun t _ => Moved ctx.options t none) (selectNode ctx rollout)
      (fun node t _ => Moved ctx.options t none ∧ Chosen ctx.options node t)
      fun _ t _ => Moved ctx.options t none := by
  refine Phases.leads_selectNode (fun nodes t _ => Moved ctx.options t none ∧
    ∀ node ∈ (nodes.map (·.object)).filter (isCandidate rollout.nodeRole ctx.options.poolName),
      Chosen ctx.options node t) (fun target htarget => leads_call ?_) (leads_call ?_)
    (fun _ _ _ h => h.1) ?_
  · intro t q hmoved reply
    have hend : Moved ctx.options (t ++ [⟨.call (.store .node (.get target)), reply⟩]) none :=
      hmoved.append (List.forall_mem_singleton.mpr rfl)
    rcases reply with (e | v) | payload
    · exact hend
    · refine ⟨hend, ?_⟩
      intro nodes hnames hshow hsame
      have hshown := hshow t _ [] rfl
      rw [viewedAfter_of_still hmoved.still fun e he => hsame e (List.mem_append_left _ he)] at hshown
      have hname : v.object.name = target := hnames _ _ _ hshown
      rw [hname]
      exact ⟨hshown, fun _ => htarget⟩
    · exact hend
  · intro t q hmoved reply
    have hend : Moved ctx.options (t ++ [⟨.call (.store .node .list), reply⟩]) none :=
      hmoved.append (List.forall_mem_singleton.mpr rfl)
    rcases reply with (e | listed) | payload
    · exact hend
    · refine ⟨hend, ?_⟩
      intro node hcandidate nodes hnames hshow hsame
      obtain ⟨hmem, hcandidate⟩ := List.mem_filter.mp hcandidate
      obtain ⟨v, hv, rfl⟩ := List.mem_map.mp hmem
      have hshown := hshow t _ [] rfl
      rw [viewedAfter_of_still hmoved.still fun e he => hsame e (List.mem_append_left _ he)]
        at hshown
      obtain ⟨n, hn⟩ := hshown v hv
      have hname : v.object.name = n := hnames _ _ _ hn
      refine ⟨by rw [hname]; exact hn, fun hlabel => ?_⟩
      -- a candidate is not in the pool yet
      simp only [isCandidate, Bool.and_eq_true, Bool.not_eq_true'] at hcandidate
      cases hcandidate.1.2.symm.trans hlabel
    · exact hend
  · rintro nodes t q ⟨hmoved, hchosen⟩ last i node hnode
    exact ⟨hmoved.append (List.forall_mem_singleton.mpr rfl),
      (hchosen node (List.mem_of_getElem? hnode)).append _⟩

theorem leads_label_moved {node : Node} :
    Leads (fun t _ => Moved options t none ∧ Chosen options node t)
      (label .node node.name (roleLabel options)) (fun _ t _ => Moved options t (some node))
      fun _ t _ => Moved options t none := by
  refine leads_bind (m := fun _ t _ => Moved options t (some node)) (leads_onStore ?_) fun _ =>
    leads_pure fun _ _ h => h
  rintro t q ⟨hmoved, hchosen⟩ s o hs
  have hstill : ∀ {s : StoreTrace Node}, (∀ e ∈ s, Mutate.Vain node.name e) →
      ∀ e ∈ s.map (Event.onPlane .node), Event.updatedNode? e = none := fun hvain =>
    List.forall_mem_map.mpr fun e he => (Event.still_of_vain (hvain e he)).1
  cases mutate_edited hs with
  | @committed s vain current desired edit v =>
    obtain rfl := Outcome.returned.inj edit
    have hbefore := hmoved.append (hstill vain)
    rw [List.map_append, ← List.append_assoc, ← List.append_nil (_ ++ _)]
    exact .node node (hchosen.append _) current _ v hbefore.still (by simp)
  | failed vain hfail =>
    have hend : Moved options (t ++ s.map (Event.onPlane .node)) none := hmoved.append (hstill vain)
    rcases o with (e | v) | payload
    · exact hend
    · exact absurd rfl (hfail v)
    · exact hend

theorem leads_moveIn_moved {ctx : ScenarioContext} {image : String} {rollout : RolloutOptions} :
    Leads (fun t _ => Moved ctx.options t none) (moveIn ctx image rollout)
      (fun _ t _ => ∃ moved, Moved ctx.options t moved)
      fun _ t _ => ∃ moved, Moved ctx.options t moved := by
  refine leads_moveIn _ (leads_selectNode_chosen.weaken (fun _ _ h => h) (fun _ _ _ h => h)
    fun _ _ _ h => ⟨none, h⟩) (fun _ _ => leads_register fun _ _ h => h) (fun _ _ _ _ h => h)
    fun node => ?_
  refine leads_bind (m := fun _ t _ => ∃ moved, Moved ctx.options t moved)
    (leads_label_moved.weaken (fun _ _ h => h) (fun _ _ _ h => ⟨some node, h⟩)
      fun _ _ _ h => ⟨none, h⟩) fun _ => ?_
  refine leads_bind (m := fun _ t _ => ∃ moved, Moved ctx.options t moved)
    (leads_register fun _ _ h => h) fun _ => ?_
  have hwait : Built ctx [] 1 (ctx.waitOn .node node.name "node boots built image"
    ctx.options.timeouts.nodeImage (Predicates.nodeImage image)) := .wait _ _ _ _ _
  refine leads_bind (leads_asks hwait.asks_within ?_) fun _ => leads_pure fun _ _ h => h
  rintro t u ⟨moved, h⟩ hu
  exact ⟨moved, h.append fun e he => Event.updatedNode?_of_within List.not_mem_nil (hu e he)⟩

theorem leads_rollout_moved {ctx : ScenarioContext} {image : String} {rollout : RolloutOptions} :
    Leads (fun t _ => Moved ctx.options t none) (Phases.rollout ctx image rollout)
      (fun _ t _ => ∃ moved, Moved ctx.options t moved)
      fun _ t _ => ∃ moved, Moved ctx.options t moved := by
  rw [rollout_eq]
  refine leads_bind leads_moveIn_moved fun node => ?_
  refine leads_bind (m := fun _ t _ => ∃ moved, Moved ctx.options t moved) (leads_call ?_)
    fun _ => leads_pure fun _ _ h => h
  rintro t q ⟨moved, h⟩ reply
  have hend : ∃ moved, Moved ctx.options
      (t ++ [⟨.call (.exec node.name rollout.verifyCommand), reply⟩]) moved :=
    ⟨moved, h.append (List.forall_mem_singleton.mpr rfl)⟩
  rcases reply with (e | output) | payload <;> exact hend

/-- Before the rollout no node is updated. -/
theorem moved_of_reached {s : Stage} {q : Progress} (h : Reached options s t q) :
    Moved options t none := by
  induction h with
  | start => exact .nobody fun _ h => by cases h
  | @step s _ _ _ _ _ _ _ passed next ih =>
    have hwithin := Stage.asks_within (Reached.phase_ne_rollout next) _ _ _ passed
    refine ih.append fun e he => Event.updatedNode?_of_within ?_ (hwithin e he)
    cases s with
    | rollout => cases next
    | _ => simp [Stage.labels]

/-- Whatever happens, the phases put the label of the pool on one node at most. -/
theorem moved_of_phases {ending : Outcome (Except Error PhasesOutcome)} {q : Progress}
    (h : (track (Phases.all options).run {}).Runs t (.returned (ending, q))) :
    ∃ moved, Moved options t moved := by
  obtain ⟨s, before, q₁, during, ending', rfl, hreached, hduring, -, -⟩ := phases_walk h
  have hbefore := moved_of_reached hreached
  cases s with
  | rollout ctx image rollout =>
    have hctx : ctx.options = options := hreached.registered.1
    subst hctx
    have hend := leads_rollout_moved before q₁ hbefore during ending' q hduring
    rcases ending' with (e | outcome) | payload <;> exact hend
  | _ =>
    have hwithin := Stage.asks_within (by simp [Stage.phase]) _ _ _ hduring
    refine ⟨none, hbefore.append fun e he => Event.updatedNode?_of_within ?_ (hwithin e he)⟩
    simp [Stage.labels]

/-! ## What can be told of the node -/

namespace Moved

theorem exists_update {node : Node} (h : Moved options t (some node)) :
    ∃ (current : Node) (expected : String) (v : Versioned Node),
      ⟨.call (.store .node (.update node.name (addLabel (roleLabel options) current) expected)),
        .returned (.ok v)⟩ ∈ t := by
  cases h with
  | node _ _ current expected v _ _ => exact ⟨current.object, expected, v, by simp⟩

/-- The only update of a node is the one that moves it into the pool. -/
theorem updated_iff (h : Moved options t moved) {n : String} :
    (∃ e ∈ t, Event.updatedNode? e = some n) ↔ ∃ node, moved = some node ∧ node.name = n := by
  constructor
  · rintro ⟨e, he, hn⟩
    cases h with
    | nobody still => cases (still e he).symm.trans hn
    | node node _ current expected v before after =>
      refine ⟨node, rfl, ?_⟩
      simp only [List.mem_append, List.mem_cons, List.not_mem_nil, or_false] at he
      rcases he with (he | rfl | rfl) | he
      · cases (before e he).symm.trans hn
      · cases hn
      · exact Option.some.inj hn
      · cases (after e he).symm.trans hn
  · rintro ⟨node, rfl, rfl⟩
    obtain ⟨current, expected, v, hmem⟩ := h.exists_update
    exact ⟨_, hmem, rfl⟩

theorem nodeLabelled_iff (h : Moved options t moved) {n : String} :
    NodeLabelled n (roleLabel options) t ↔ ∃ node, moved = some node ∧ node.name = n := by
  constructor
  · rintro ⟨e, he, v, ⟨desired, expected, _, -⟩⟩
    exact h.updated_iff.mp ⟨_, he, rfl⟩
  · rintro ⟨node, rfl, rfl⟩
    obtain ⟨current, expected, v, hmem⟩ := h.exists_update
    exact ⟨_, hmem, v, .mk _ _ _ (contains_labels_addLabel _ current)⟩

/-- What became of the labels of the nodes. -/
theorem labels (h : Moved options t moved) {nodes : String → Option (StringMap String)}
    (hsame : ∀ e ∈ t, Event.SameNodes e) (hshow : AllShow Node.labels t nodes) :
    (moved = none → viewedAfter Node.labels t nodes = nodes) ∧
    ∀ node, moved = some node → ∃ labels, nodes node.name = some labels ∧
      viewedAfter Node.labels t nodes =
        Function.update nodes node.name (some (labels.insert (roleLabel options) "")) := by
  cases h with
  | nobody still =>
    exact ⟨fun _ => viewedAfter_of_still still hsame _ _, nofun⟩
  | @node s u node _ current expected v before after =>
    refine ⟨nofun, ?_⟩
    rintro _ ⟨⟩
    have hsameBefore : ∀ e ∈ s, Event.SameNodes e := fun e he => hsame e (by simp [he])
    have hsameAfter : ∀ e ∈ u, Event.SameNodes e := fun e he => hsame e (by simp [he])
    have hread := hshow s _ _ (by rw [List.append_assoc]; rfl)
    rw [viewedAfter_of_still before hsameBefore] at hread
    refine ⟨current.object.labels, hread, ?_⟩
    rw [viewedAfter_append, viewedAfter_append, viewedAfter_of_still before hsameBefore,
      viewedAfter_of_still after hsameAfter]
    rfl

/-- If the node was in the pool before, it was asked for. -/
theorem asked_for {node : Node} (h : Moved options t (some node))
    {nodes : String → Option (String × StringMap String)} (hnames : OwnNames nodes)
    (hsame : ∀ e ∈ t, Event.SameNodes e) (hshow : AllShow Node.nameAndLabels t nodes)
    {labels : StringMap String} (hnode : nodes node.name = some (node.name, labels))
    (hlabel : labels.contains (roleLabel options)) :
    options.targetNodes.head? = some node.name := by
  cases h with
  | node _ chosen _ _ _ _ _ =>
    obtain ⟨hstored, htarget⟩ := (chosen.append _).append _ nodes hnames hshow hsame
    cases hstored.symm.trans hnode
    exact htarget hlabel

end Moved

/-- Only the update of a node is made up for by taking a label off a node. -/
theorem acquisition?_eq_unlabelNode_iff {earlier : PlaneTrace} {e : PlaneEvent} {name label : String} :
    acquisition? options earlier e = some (.unlabelNode name label) ↔
      e.updatedNode? = some name ∧ label = roleLabel options := by
  have hselection : ∀ node, selection options node ≠ some (.unlabelNode name label) := by
    intro node h
    cases eq_deleteNode_of_selection h
  unfold acquisition? Event.updatedNode?
  split
  · simp
  · simp
  · simp [roleLabel, eq_comm]
  · split <;> simp [hselection]
  · split
    · cases candidate? options _ _ <;> simp [hselection]
    · simp
  · rename_i hnode _ _
    constructor
    · exact nofun
    · rintro ⟨hupdated, -⟩
      split at hupdated
      · exact absurd rfl (hnode _ _ _ _)
      · cases hupdated

theorem mem_acquisitions_unlabelNode_iff {name label : String} :
    .unlabelNode name label ∈ acquisitions options t ↔
      ∃ e ∈ t, Event.updatedNode? e = some name ∧ label = roleLabel options :=
  mem_acquisitions_iff fun _ _ => acquisition?_eq_unlabelNode_iff

end Scenario

end BuildTrial
