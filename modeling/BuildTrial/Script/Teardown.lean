import BuildTrial.Rehearsal.Teardown
import BuildTrial.Script.Resource

/-!
# Teardown in scripts

The JSON form of scripted teardown actions, which may be nested.
-/

namespace BuildTrial.Script

open Json Rehearsal

/-- A panic with a text, or with anything else as its payload. -/
def payload? : Json → Option Panic
  | .null => none
  | .string message => some (.text message)
  | _ => some .untold

/-- The name and the body of an action; actions are nested at most as deep as `depth`. -/
def action : (depth : Nat) → Json → String × Body noteInterface
  | depth, json =>
    let plan : ActionPlan :=
      { name := json.getText "name"
        panicFirst := (json.getText? "sync_panic").map .text
        nested := match depth, json.field? "nested" with
          | depth + 1, some nested => if nested.isNull then none else some (action depth nested)
          | _, _ => none
        calls := json.getNat? "calls"
        panicLast := payload? (json.get "panic")
        error := (json.field? "error").bind fun e => if e.isNull then none else some (error e) }
    (plan.name, plan.body)

end BuildTrial.Script
