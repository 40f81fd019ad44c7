import BuildTrial.Mutate

/-!
# Undoing what a scenario did

For everything that a scenario takes hold of it registers how to let go of it, as a value: which
resource to delete, which label to take off, which node to destroy. `Undo.program` carries it out.
-/

namespace BuildTrial

inductive Undo where
  /-- Delete a resource that the scenario created. -/
  | delete (kind : Kind) (name : String)
  /-- Take a label off a pool. -/
  | unlabelPool (name label : String)
  /-- Take a label off a node. -/
  | unlabelNode (name label : String)
  /-- Delete a node and then the machine behind it, if it has one. -/
  | deleteNode (name : String) (machine : Option String)
deriving DecidableEq, Repr

namespace Undo

/-- The name under which the action is registered and reported. -/
def name : Undo → String
  | .delete kind name => s!"delete {kind.text} {name}"
  | .unlabelPool name label => s!"remove label {label} from {Kind.pool.text} {name}"
  | .unlabelNode name label => s!"remove label {label} from {Kind.node.text} {name}"
  | .deleteNode name (some machine) => s!"delete Node {name} and Machine {machine}"
  | .deleteNode name none => s!"delete Node {name}"

/-- A deletion that is content if there is nothing to delete. -/
def ignoringNotFound : Except Error Unit → Except Error Unit
  | .ok () => .ok ()
  | .error e => if e.isNotFound then .ok () else .error e

def deleteIfPresent (kind : Kind) (name : String) : PlaneProgram (Except Error Unit) :=
  (PlaneCall.run (.store kind (.delete name))).bind fun result => .done (ignoringNotFound result)

/-- Take a label off an object of a kind that has labels. -/
def unlabel (kind : Kind) [Labelled kind.Model] (name label : String) :
    PlaneProgram (Except Error Unit) :=
  (onStore kind (mutate name .forConflicts fun object => .returned (removeLabel label object))).bind
    fun result => .done (result.map fun _ => ())

def program : Undo → PlaneProgram (Except Error Unit)
  | .delete kind name => PlaneCall.run (.store kind (.delete name))
  | .unlabelPool name label => unlabel .pool name label
  | .unlabelNode name label => unlabel .node name label
  | .deleteNode name machine =>
    (deleteIfPresent .node name).bind fun
      | .error e => .done (.error e)
      | .ok () =>
        match machine with
        | some machine => deleteIfPresent .machine machine
        | none => .done (.ok ())

end Undo

end BuildTrial
