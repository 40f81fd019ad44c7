import BuildTrial.Cleanup

/-!
# Scripted teardown actions

An action for rehearsing teardown: it notes that it was started, may panic, register another action
or run one by its handle, and ends as it is told. What it notes goes into a list.
-/

namespace BuildTrial.Rehearsal

/-- Noting a text. -/
@[reducible] def noteInterface : Interface where
  Query := String
  Reply _ := Unit

/-- The notes so far, latest first. -/
abbrev Notes : Type := List String

def takeNote (note : String) (notes : Notes) : Unit × Notes := ((), note :: notes)

/-- What an action does once it is started. -/
structure ActionPlan where
  name : String
  /-- Panic before anything else. -/
  panicFirst : Option Panic := none
  /-- Register another action. -/
  nested : Option (String × Body noteInterface) := none
  /-- Run the action with this handle, if there is one. -/
  calls : Option Handle := none
  /-- Panic in the end. -/
  panicLast : Option Panic := none
  /-- Fail in the end. -/
  error : Option Error := none

namespace ActionPlan

/-- How the end of a run is noted. -/
def resultText : RunResult → String
  | none => "none"
  | some (.ok ()) => "ok"
  | some (.error e) => e.message

def ending (plan : ActionPlan) : Body noteInterface :=
  match plan.panicLast, plan.error with
  | some payload, _ => .panic payload
  | none, some e => .finish (.error e)
  | none, none => .finish (.ok ())

def calling (plan : ActionPlan) : Body noteInterface :=
  match plan.calls with
  | none => plan.ending
  | some handle =>
    .inspect handle fun
      | none => plan.ending
      | some status =>
        .invoke handle fun result =>
          .ask s!"called {status.name}: {resultText result}" fun _ => plan.ending

def body (plan : ActionPlan) : Body noteInterface :=
  .ask plan.name fun _ =>
    match plan.panicFirst with
    | some payload => .panic payload
    | none =>
      match plan.nested with
      | some (name, nested) => .register name nested fun _ => plan.calling
      | none => plan.calling

end ActionPlan

end BuildTrial.Rehearsal
