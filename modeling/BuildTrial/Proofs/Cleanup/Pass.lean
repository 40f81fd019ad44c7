import BuildTrial.Cleanup
import Mathlib.Data.List.Induction

/-!
# A teardown pass over plain programs

Bodies of actions may call back into the registry they are in, which is what makes `ActionRun.exec`
hard to read. The actions of a scenario never do: each is a program over the control plane and
nothing else. For those a pass is what one would write down first: catch what the newest action does,
record it, go on with the next one (`CleanupReport.carryOut`). `runAll_ofPrograms` says that the
registry does just this, so everything below teardown can forget claims, frames and slots.
-/

namespace BuildTrial

/-- What a caught run of an action counts as. -/
def Outcome.settle (name : String) : Outcome (Except Error Unit) → Except Error Unit
  | .returned result => result
  | .panicked payload => .error (.ofPanic name payload)

theorem Outcome.settle_eq_error_iff {name : String} {o : Outcome (Except Error Unit)} :
    (∃ e, o.settle name = .error e) ↔ o ≠ .returned (.ok ()) := by
  rcases o with (e | ⟨⟩) | payload <;> simp [settle]

/-- A teardown action that does not use the registry. -/
structure PlainAction (I : Interface) : Type where
  name : String
  program : Program I (Except Error Unit)

namespace PlainAction

variable {I : Interface}

def toAction (a : PlainAction I) : Action I := ⟨a.name, .unclaimed (.ofProgram a.program)⟩

/-- The action once a pass has run it. -/
def claimed (a : PlainAction I) : Action I := ⟨a.name, .claimed⟩

end PlainAction

/-- The registry of the given actions, in the order of their registration. -/
def Registry.ofPrograms {I : Interface} (actions : List (PlainAction I)) : Registry I :=
  ⟨actions.map PlainAction.toAction⟩

/-- Carry out actions one after the other and record how each of them ended. -/
def CleanupReport.carryOut {I : Interface} :
    List (PlainAction I) → CleanupReport → Program I CleanupReport
  | [], report => .done report
  | a :: rest, report =>
    a.program.attempt.bind fun o => carryOut rest (report.record a.name (some (o.settle a.name)))

variable {I : Interface}

/-! ## One run -/

namespace ActionRun

theorem exec_of_finished {m : ActionRun I} {result : Except Error Unit} {r : Registry I}
    (h : m.step = .finished result r) : m.exec = .done (result, r) := by
  rw [exec]
  split <;> simp_all

theorem exec_of_asking {m : ActionRun I} {query : I.Query} {next : I.Reply query → ActionRun I}
    (h : m.step = .asking query next) :
    m.exec = .ask query fun reply => (next reply).exec := by
  rw [exec]
  split
  · simp_all
  · simp_all
  · rename_i query' next' h'
    obtain ⟨rfl, hn⟩ := Step.asking.inj (h'.symm.trans h)
    obtain rfl := eq_of_heq hn
    rfl

/-- A body that is a plain program runs as the program does, its panic caught, and leaves the
registry alone. -/
theorem exec_ofProgram (r : Registry I) (name : String) (p : Program I (Except Error Unit)) :
    exec ⟨r, name, .ofProgram p, []⟩ = p.attempt.bind fun o => .done (o.settle name, r) := by
  induction p with
  | done result => exact exec_of_finished rfl
  | panic payload => exact exec_of_finished rfl
  | ask query next ih =>
    rw [exec_of_asking (m := ⟨r, name, .ofProgram (.ask query next), []⟩) rfl]
    simp only [ih, Program.attempt, Program.bind]

end ActionRun

/-! ## The whole pass -/

namespace Registry

/-- Running the action between those not yet run and those already run. -/
theorem run_middle (before : List (PlainAction I)) (a : PlainAction I) (after : List (Action I)) :
    Registry.run ⟨before.map PlainAction.toAction ++ a.toAction :: after⟩ before.length =
      a.program.attempt.bind fun o => .done (some (o.settle a.name),
        ⟨before.map PlainAction.toAction ++ a.claimed :: after⟩) := by
  have hget : (before.map PlainAction.toAction ++ a.toAction :: after)[before.length]? =
      some a.toAction := by
    rw [List.getElem?_append_right (by simp)]
    simp
  have hmodify : (before.map PlainAction.toAction ++ a.toAction :: after).modify before.length
      Action.claim = before.map PlainAction.toAction ++ a.claimed :: after := by
    rw [List.modify_eq_take_cons_drop (by simp)]
    simp [List.drop_append, PlainAction.claimed, PlainAction.toAction,
      Action.claim]
  rw [run, claim?, hget]
  simp only [PlainAction.toAction] at hmodify ⊢
  rw [hmodify, ActionRun.exec_ofProgram, Program.bind_assoc]
  rfl

/-- Going down through the actions that are not yet run. -/
theorem runDown_ofPrograms (actions : List (PlainAction I)) (after : List (Action I))
    (report : CleanupReport) :
    runDown ⟨actions.map PlainAction.toAction ++ after⟩ report actions.length =
      (report.carryOut actions.reverse).bind fun report =>
        .done (report, ⟨actions.map PlainAction.claimed ++ after⟩) := by
  induction actions using List.reverseRecOn generalizing after report with
  | nil => rfl
  | append_singleton before a ih =>
    have hstatus : status? ⟨before.map PlainAction.toAction ++ a.toAction :: after⟩ before.length =
        some ⟨a.name, false⟩ := by
      rw [status?, List.getElem?_append_right (by simp)]
      simp [PlainAction.toAction, Action.status, Action.hasRun]
    simp only [List.map_append, List.map_cons, List.map_nil, List.append_assoc, List.cons_append,
      List.nil_append, List.length_append, List.length_cons, List.length_nil, List.reverse_append,
      List.reverse_cons, List.reverse_nil]
    rw [runDown, hstatus]
    simp only [run_middle, CleanupReport.carryOut, Program.bind_assoc, Program.bind, ih]

/-- A teardown pass over plain programs carries them out, newest first, each exactly once. -/
theorem runAll_ofPrograms (actions : List (PlainAction I)) :
    (ofPrograms actions).runAll false =
      (CleanupReport.carryOut actions.reverse {}).bind fun report =>
        .done (report, ⟨actions.map PlainAction.claimed⟩) := by
  have h := runDown_ofPrograms actions [] {}
  simpa [runAll, ofPrograms, size] using h

end Registry

end BuildTrial
