import BuildTrial.Proofs.Scenario.Ledger
import BuildTrial.Proofs.Scenario.Stages

/-!
# What a phase that was passed has seen

A wait that ended well has just read the snapshot that satisfied it. So there is evidence in the trace for
whatever the phases go by: the rendered configuration of the pool (`leads_provision_rendered`), the
finished build with its image (`leads_buildCompletion_shown`), and the node that runs the image
(`leads_moveIn_booted`).
-/

namespace BuildTrial

namespace Predicates

theorem image_of_buildCompleted {pool : Pool} (h : buildCompleted pool = .satisfied) :
    pool.state = .succeeded ∧ pool.image.isSome := by
  unfold buildCompleted at h
  split at h
  · rename_i hstate
    split at h
    · rename_i himage
      exact ⟨hstate, himage⟩
    · cases h
  all_goals cases h

theorem image_of_nodeImage {image : String} {node : Node} (h : nodeImage image node = .satisfied) :
    node.image = some image := by
  unfold nodeImage at h
  split at h
  · assumption
  · split at h <;> cases h

end Predicates

namespace Event

/-- An update that leaves the object with the label, and what it comes back with. -/
inductive Labels (kind : Kind) [Labelled kind.Model] (name label : String) :
    Attempted (Versioned kind.Model) → PlaneEvent → Prop where
  | mk (desired : kind.Model) (expected : String) (reply : Attempted (Versioned kind.Model))
      (h : (Labelled.labels desired).contains label) :
      Labels kind name label reply ⟨.call (.store kind (.update name desired expected)), reply⟩

theorem Labels.updating {kind : Kind} [Labelled kind.Model] {name label : String}
    {reply : Attempted (Versioned kind.Model)} {e : PlaneEvent}
    (h : Labels kind name label reply e) : e.updating? = some (kind, name) := by
  cases h
  rfl

end Event

/-- The last thing that was asked is a successful read of the object. -/
def ShownLast (kind : Kind) (name : String) (v : Versioned kind.Model) (t : PlaneTrace) : Prop :=
  t.getLast? = some ⟨.call (.store kind (.get name)), .returned (.ok v)⟩

namespace Phases

open Phased

variable {ctx : ScenarioContext}

/-- A wait that ends well ends with the snapshot that satisfied its predicate. -/
theorem leads_waitOn_shown {kind : Kind} {name description : String} {budget : Nat}
    {predicate : kind.Model → Verdict} {K : PlaneTrace → Prop}
    (hmono : ∀ t u, K t → K (t ++ u)) :
    Leads (fun t _ => K t) (ctx.waitOn kind name description budget predicate)
      (fun v t _ => K t ∧ ShownLast kind name v t ∧ predicate v.object = .satisfied)
      fun _ _ _ => True := by
  refine leads_bind (leads_keep hmono) fun now => leads_onStore ?_
  intro t q hknown s o hs
  rcases o with (e | v) | payload
  · exact trivial
  · obtain ⟨hsatisfied, s, rfl⟩ := waitFor_satisfied hs
    refine ⟨hmono _ _ hknown, ?_, hsatisfied⟩
    simp [ShownLast, Event.onPlane]
  · exact trivial

/-! ## Provisioning -/

/-- The pool was seen with a rendered configuration that is its own. -/
def Rendered (poolName : String) (t : PlaneTrace) : Prop :=
  ∃ v : Versioned Pool, ⟨.call (.store .pool (.get poolName)), .returned (.ok v)⟩ ∈ t ∧
    Predicates.renderedConfig poolName v.object = .satisfied

theorem leads_provision_rendered :
    Leads (fun _ _ => True) (provision ctx) (fun _ t _ => Rendered ctx.options.poolName t)
      fun _ _ _ => True := by
  refine leads_bind leads_any fun finalPushSecret => ?_
  refine leads_bind leads_any fun _ => leads_bind leads_any fun repository => ?_
  dsimp only
  split
  case h_2 =>
    rw [throw_bind]
    exact leads_throw fun _ _ _ => trivial
  refine leads_bind leads_any fun finalPullspec => leads_bind leads_any fun pullSecret => ?_
  refine leads_bind leads_any fun _ => leads_bind leads_any fun _ => ?_
  refine leads_bind leads_any fun _ => ?_
  refine leads_bind (leads_waitOn_shown (K := fun _ => True) fun _ _ h => h) fun v => ?_
  refine (leads_keep (K := Rendered ctx.options.poolName) ?_).weaken ?_ (fun _ _ _ h => h)
    fun _ _ _ h => h
  · rintro t u ⟨v, hmem, hrendered⟩
    exact ⟨v, List.mem_append_left u hmem, hrendered⟩
  · rintro t q ⟨-, hshown, hrendered⟩
    exact ⟨v, List.mem_of_getLast? hshown, hrendered⟩

/-! ## The build -/

theorem leads_buildCompletion_shown :
    Leads (fun _ _ => True) (buildCompletion ctx)
      (fun image t _ => ∃ v : Versioned Pool, ShownLast .pool ctx.options.poolName v t ∧
        v.object.state = .succeeded ∧ v.object.image = some image)
      fun _ _ _ => True := by
  refine leads_bind (leads_waitOn_shown (K := fun _ => True) fun _ _ h => h) fun v => ?_
  split
  · rename_i image himage
    refine leads_pure fun t q h => ⟨v, h.2.1, (Predicates.image_of_buildCompleted h.2.2).1, himage⟩
  · exact leads_throw fun _ _ _ => trivial

/-! ## The rollout -/

/-- The label is put on the node by an update that the store took. -/
def NodeLabelled (name label : String) (t : PlaneTrace) : Prop :=
  ∃ e ∈ t, ∃ v, Event.Labels .node name label (.returned (.ok v)) e

theorem NodeLabelled.append {name label : String} {t : PlaneTrace} (h : NodeLabelled name label t)
    (u : PlaneTrace) : NodeLabelled name label (t ++ u) := by
  obtain ⟨e, hmem, hlabels⟩ := h
  exact ⟨e, List.mem_append_left u hmem, hlabels⟩

theorem contains_labels_addLabel (key : String) (node : Node) :
    (Labelled.labels (addLabel key node)).contains key := by
  show (node.labels.insert key "").contains key
  simp

theorem leads_label_node {name key : String} :
    Leads (fun _ _ => True) (label .node name key) (fun _ t _ => NodeLabelled name key t)
      fun _ _ _ => True := by
  refine leads_bind (leads_onStore ?_) fun _ => leads_pure fun _ _ h => h
  intro t q _ s o hs
  cases mutate_edited hs with
  | @committed s vain current desired edit v =>
    cases edit
    refine ⟨⟨.call (.store .node (.update name (addLabel key current.object) current.version)),
      .returned (.ok v)⟩, ?_, v, .mk _ _ _ (contains_labels_addLabel key current.object)⟩
    rw [List.map_append]
    exact List.mem_append_right t (List.mem_append_right _ (by simp [Event.onPlane]))
  | failed vain h =>
    rcases o with (e | v) | payload
    · exact trivial
    · exact absurd rfl (h v)
    · exact trivial

/-- The node was given the label, and then its last read showed it with the image. -/
structure Booted (name label image : String) (t : PlaneTrace) : Prop where
  labelled : NodeLabelled name label t
  shown : ∃ v : Versioned Node, ShownLast .node name v t ∧ v.object.image = some image

theorem leads_moveIn_booted {image : String} {rolloutOptions : RolloutOptions} :
    Leads (fun _ _ => True) (moveIn ctx image rolloutOptions)
      (fun node t _ => Booted node.name (nodeRoleLabel ctx.options.poolName) image t)
      fun _ _ _ => True := by
  refine leads_moveIn (fun _ _ _ => True) leads_any (fun _ _ => leads_any)
    (fun _ _ _ _ _ => trivial) fun node => ?_
  refine leads_bind leads_label_node fun _ => ?_
  refine leads_bind (leads_keep fun _ u h => h.append u) fun _ => ?_
  refine leads_bind (leads_waitOn_shown fun _ u h => h.append u) fun v => ?_
  exact leads_pure fun _ _ ⟨hlabelled, hshown, hsatisfied⟩ =>
    ⟨hlabelled, v, hshown, Predicates.image_of_nodeImage hsatisfied⟩

end Phases

end BuildTrial
