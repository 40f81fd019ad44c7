import BuildTrial.Proofs.Scenario.Phased
import Mathlib.Data.List.Induction

/-!
# What the phases take hold of

Whoever reads the log of a run can tell what the phases have taken hold of by some point: every
resource that they created, every label that they put somewhere, and the node that they chose if it is
to be deleted. `acquisitions` reads this off the trace, as the undoings that make up for it, without a
look at what the phases registered.

That the phases registered just this is proved in `Ledger`.
-/

namespace BuildTrial

/-! ## Reading a trace -/

namespace Event

/-- Whether the event is a call on the nodes. -/
def onNodes : PlaneEvent → Bool
  | ⟨.call (.store .node _), _⟩ => true
  | _ => false

/-- What a successful creation created. -/
def created? : PlaneEvent → Option (Kind × String)
  | ⟨.call (.store kind (.create object)), .returned (.ok _)⟩ => some (kind, Resource.name object)
  | _ => none

/-- What the event tries to delete. -/
def deleting? : PlaneEvent → Option (Kind × String)
  | ⟨.call (.store kind (.delete name)), _⟩ => some (kind, name)
  | _ => none

/-- What the event tries to update. -/
def updating? : PlaneEvent → Option (Kind × String)
  | ⟨.call (.store kind (.update name _ _)), _⟩ => some (kind, name)
  | _ => none

end Event

/-- The kinds of which a scenario only touches what it created. -/
def Kind.isFixture : Kind → Bool
  | .pool | .configMap | .secret | .imageRepository => true
  | .node | .machine => false

namespace Scenario

/-- What choosing a node for the rollout commits to. -/
def selection (options : ScenarioOptions) (node : Node) : Option Undo :=
  match options.rollout with
  | some rollout => if rollout.deleteNode then some (.deleteNode node.name node.machine) else none
  | none => none

/-- The candidate with the given number among the nodes of a listing. -/
def candidate? (options : ScenarioOptions) (nodes : List (Versioned Node)) (i : Nat) :
    Option Node :=
  match options.rollout with
  | some rollout =>
    ((nodes.map (·.object)).filter
      (Phases.isCandidate rollout.nodeRole options.poolName))[i]?
  | none => none

/-- What an event takes hold of, as the undoing that makes up for it; `earlier` are the events before
it. A node is chosen by the first successful read of one, or by a random choice right after the nodes
were listed. -/
def acquisition? (options : ScenarioOptions) (earlier : PlaneTrace) : PlaneEvent → Option Undo
  | ⟨.call (.store kind (.create object)), .returned (.ok _)⟩ =>
    some (.delete kind (Resource.name object))
  | ⟨.call (.store .pool (.update name _ _)), .returned (.ok _)⟩ =>
    some (.unlabelPool name layeringLabel)
  | ⟨.call (.store .node (.update name _ _)), .returned (.ok _)⟩ =>
    some (.unlabelNode name (nodeRoleLabel options.poolName))
  | ⟨.call (.store .node (.get _)), .returned (.ok snapshot)⟩ =>
    if earlier.any Event.onNodes then none else selection options snapshot.object
  | ⟨.pick _, i⟩ =>
    match earlier.getLast? with
    | some ⟨.call (.store .node .list), .returned (.ok nodes)⟩ =>
      (candidate? options nodes i.val).bind (selection options)
    | _ => none
  | _ => none

/-- What the events after `earlier` take hold of, in order. -/
def acquisitionsAfter (options : ScenarioOptions) (earlier : PlaneTrace) :
    PlaneTrace → List Undo
  | [] => []
  | e :: t =>
    (acquisition? options earlier e).toList ++ acquisitionsAfter options (earlier ++ [e]) t

/-- What a run of the phases takes hold of, in order. -/
def acquisitions (options : ScenarioOptions) (t : PlaneTrace) : List Undo :=
  acquisitionsAfter options [] t

variable {options : ScenarioOptions}

theorem acquisitionsAfter_append (earlier s t : PlaneTrace) :
    acquisitionsAfter options earlier (s ++ t) =
      acquisitionsAfter options earlier s ++ acquisitionsAfter options (earlier ++ s) t := by
  induction s generalizing earlier with
  | nil => simp [acquisitionsAfter]
  | cons e s ih => simp [acquisitionsAfter, ih]

theorem acquisitions_concat (t : PlaneTrace) (e : PlaneEvent) :
    acquisitions options (t ++ [e]) =
      acquisitions options t ++ (acquisition? options t e).toList := by
  rw [acquisitions, acquisitionsAfter_append]
  simp [acquisitionsAfter, acquisitions]

theorem eq_deleteNode_of_selection {node : Node} {undo : Undo}
    (h : selection options node = some undo) : undo = .deleteNode node.name node.machine := by
  unfold selection at h
  split at h
  · split at h
    · exact (Option.some.inj h).symm
    · cases h
  · cases h

/-- Only a creation is made up for by a deletion that is no node's. -/
theorem acquisition?_eq_delete_iff {earlier : PlaneTrace} {e : PlaneEvent} {kind : Kind}
    {name : String} :
    acquisition? options earlier e = some (.delete kind name) ↔ e.created? = some (kind, name) := by
  have hselection : ∀ node, selection options node ≠ some (.delete kind name) := by
    intro node h
    cases eq_deleteNode_of_selection h
  unfold acquisition? Event.created?
  split
  · simp
  · simp
  · simp
  · split <;> simp [hselection]
  · split
    · cases candidate? options _ _ <;> simp [hselection]
    · simp
  · simp_all

/-- What is taken hold of by the same events wherever they stand. -/
theorem mem_acquisitions_iff {undo : Undo} {P : PlaneEvent → Prop}
    (h : ∀ earlier e, acquisition? options earlier e = some undo ↔ P e) {t : PlaneTrace} :
    undo ∈ acquisitions options t ↔ ∃ e ∈ t, P e := by
  induction t using List.reverseRecOn with
  | nil => simp [acquisitions, acquisitionsAfter]
  | append_singleton t e ih =>
    simp only [acquisitions_concat, List.mem_append, Option.mem_toList, ih, h, List.mem_singleton]
    constructor
    · rintro (⟨e', h, he⟩ | he)
      · exact ⟨e', .inl h, he⟩
      · exact ⟨e, .inr rfl, he⟩
    · rintro ⟨e', h | rfl, he⟩
      · exact .inl ⟨e', h, he⟩
      · exact .inr he

theorem mem_acquisitions_delete_iff {t : PlaneTrace} {kind : Kind} {name : String} :
    .delete kind name ∈ acquisitions options t ↔ ∃ e ∈ t, e.created? = some (kind, name) :=
  mem_acquisitions_iff fun _ _ => acquisition?_eq_delete_iff

end Scenario

end BuildTrial
