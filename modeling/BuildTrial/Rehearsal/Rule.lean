import BuildTrial.Rehearsal.Edit
import BuildTrial.Store.Memory

/-!
# Scripted controllers

A controller is a list of rules. Each rule has a script of edits and works it off, one entry for
each object that it looks at and does not skip; all objects share its position. A rule can wait for
a label, seen at the moment its turn comes, and can misreport whether the object was changed.
-/

namespace BuildTrial.Rehearsal

structure Rule where
  script : List (List Edit)
  /-- Past the end of the script, do its last entry again. -/
  repeatLast : Bool := false
  /-- Act on the object with this name only. -/
  name : Option String := none
  /-- Act on objects with this label only. -/
  whenLabel : Option String := none
  /-- What to report, whatever happened. -/
  report : Option Bool := none
  /-- How many entries were worked off. -/
  position : Nat := 0
deriving DecidableEq, Repr

/-- The labels of an object; only pools and nodes have any. -/
def labelsOf : (kind : Kind) → kind.Model → StringMap String
  | .pool, pool => Pool.labels pool
  | .node, node => Node.labels node
  | .configMap, _ => ∅
  | .secret, _ => ∅
  | .imageRepository, _ => ∅
  | .machine, _ => ∅

namespace Rule

def skips (kind : Kind) (object : kind.Model) (r : Rule) : Bool :=
  (match r.name with
    | some name => name != Resource.name object
    | none => false) ||
  (match r.whenLabel with
    | some label => !(labelsOf kind object).contains label
    | none => false)

/-- The edits whose turn it is. -/
def edits (r : Rule) : List Edit :=
  match r.script[r.position]? with
  | some edits => edits
  | none => if r.repeatLast then r.script.getLastD [] else []

def advanced (r : Rule) : Rule := { r with position := r.position + 1 }

/-- How the rules left an object. -/
structure Effect (kind : Kind) where
  object : kind.Model
  /-- The report of the last rule that makes one. -/
  report : Option Bool
  outcome : Outcome Unit

/-- Apply the rules to an object in order; the answer holds the rules with their new positions. -/
def applyAll (kind : Kind) (object : kind.Model) (report : Option Bool) :
    List Rule → List Rule × Effect kind
  | [] => ([], ⟨object, report, .returned ()⟩)
  | r :: rest =>
    if r.skips kind object then
      let (rest, effect) := applyAll kind object report rest
      (r :: rest, effect)
    else
      match Edit.onAll kind object r.edits with
      | (object, .panicked payload) => (r.advanced :: rest, ⟨object, report, .panicked payload⟩)
      | (object, .returned ()) =>
        let (rest, effect) := applyAll kind object (r.report.or report) rest
        (r.advanced :: rest, effect)

/-- Act on one object. Without a report it is told from the object whether it was changed. -/
def act (kind : Kind) (rules : List Rule) (object : kind.Model) :
    List Rule × kind.Model × Outcome Bool :=
  let (rules, effect) := applyAll kind object none rules
  match effect.outcome with
  | .panicked payload => (rules, effect.object, .panicked payload)
  | .returned () =>
    (rules, effect.object, .returned (effect.report.getD (effect.object != object)))

end Rule

def reconciler (kind : Kind) (rules : List Rule) : Reconciler kind.Model (List Rule) :=
  ⟨rules, Rule.act kind⟩

end BuildTrial.Rehearsal
