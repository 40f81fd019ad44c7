import BuildTrial.Proofs.Scenario.Stages

/-!
# What a part of the phases registers

Only a registration changes what is registered, so whatever is true of all the undoings that a part may
register stays true of all that are registered (`Registered`), at whichever end the part comes to. There is
one rule for each block and one lemma for each phase. Up to the rollout nothing is registered but creations
and the label of the pool (`Stage.registers`).
-/

namespace BuildTrial

namespace Phased

variable {α : Type} {P : Undo → Prop}

/-- All that is registered has the property. -/
def Registered (P : Undo → Prop) : Assertion := fun _ q => ∀ undo ∈ q.undos, P undo

theorem Registered.mono {P' : Undo → Prop} (h : ∀ undo, P undo → P' undo) {t : PlaneTrace}
    {q : Progress} (hall : Registered P t q) : Registered P' t q :=
  fun undo hmem => h undo (hall undo hmem)

theorem registers_call {call : PlaneCall} :
    Leads (Registered P) (Phased.call call) (fun _ => Registered P) fun _ => Registered P := by
  refine leads_call fun _ _ h reply => ?_
  rcases reply with (e | a) | payload <;> exact h

theorem registers_onStore {kind : Kind} {p : StoreProgram kind.Model (Except Error α)} :
    Leads (Registered P) (Phased.onStore kind p) (fun _ => Registered P) fun _ => Registered P := by
  refine leads_onStore fun _ _ h _ o _ => ?_
  rcases o with (e | a) | payload <;> exact h

theorem registers_register {undo : Undo} {stop : Outcome Error → Assertion} (hundo : P undo) :
    Leads (Registered P) (Phased.register undo) (fun _ => Registered P) stop :=
  leads_register fun _ _ h => List.forall_mem_append.mpr ⟨h, List.forall_mem_singleton.mpr hundo⟩

end Phased

open Phased

namespace Phases

variable {ctx : ScenarioContext} {options : ScenarioOptions} {P : Undo → Prop}

theorem registers_waitOn {kind : Kind} {name description : String} {budget : Nat}
    {predicate : kind.Model → Verdict} :
    Leads (Registered P) (ctx.waitOn kind name description budget predicate) (fun _ => Registered P)
      fun _ => Registered P :=
  leads_bind (leads_now fun _ _ h _ => h) fun _ => registers_onStore

theorem registers_label {kind : Kind} [Labelled kind.Model] {name key : String} :
    Leads (Registered P) (label kind name key) (fun _ => Registered P) fun _ => Registered P :=
  leads_bind registers_onStore fun _ => leads_pure fun _ _ h => h

theorem registers_create {kind : Kind} {object : kind.Model}
    (hundo : P (.delete kind (Resource.name object))) :
    Leads (Registered P) (create kind object) (fun _ => Registered P) fun _ => Registered P :=
  leads_bind registers_call fun _ => registers_register hundo

theorem registers_opening :
    Leads (Registered P) (opening options) (fun _ => Registered P) fun _ => Registered P := by
  cases hvalid : options.validate with
  | error e =>
    rw [opening_of_invalid hvalid]
    exact leads_throw fun _ _ h => h
  | ok _ =>
    rw [opening_of_valid hvalid]
    refine leads_bind (m := fun _ => Registered P) (leads_now fun _ _ h _ => h) fun started => ?_
    generalize started.after? (.ofSecs options.timeouts.scenario) = deadline?
    cases deadline? with
    | none => exact leads_throw fun _ _ h => h
    | some deadline => exact leads_pure fun _ _ h => h

theorem registers_provision (hdelete : ∀ kind name, P (.delete kind name)) :
    Leads (Registered P) (provision ctx) (fun _ => Registered P) fun _ => Registered P := by
  refine leads_bind (m := fun _ => Registered P) ?_ fun finalPushSecret => ?_
  · refine leads_bind registers_call fun secrets => ?_
    split
    · exact leads_pure fun _ _ h => h
    · exact leads_throw fun _ _ h => h
  refine leads_bind (registers_create (hdelete _ _)) fun _ => ?_
  refine leads_bind registers_waitOn fun repository => ?_
  dsimp only
  split
  · refine leads_bind (m := fun _ => Registered P) (leads_pure fun _ _ h => h) fun _ => ?_
    refine leads_bind registers_call fun pullSecret => ?_
    refine leads_bind (registers_create (hdelete _ _)) fun _ => ?_
    refine leads_bind (registers_create (hdelete _ _)) fun _ => ?_
    refine leads_bind (registers_create (hdelete _ _)) fun _ => ?_
    exact leads_bind registers_waitOn fun _ => registers_create (hdelete _ _)
  · exact leads_bind (m := fun _ _ _ => False) (leads_throw fun _ _ h => h) fun _ => leads_of_false

theorem registers_buildCompletion :
    Leads (Registered P) (buildCompletion ctx) (fun _ => Registered P) fun _ => Registered P := by
  refine leads_bind registers_waitOn fun built => ?_
  split
  · exact leads_pure fun _ _ h => h
  · exact leads_throw fun _ _ h => h

theorem registers_selectNode {rollout : RolloutOptions} :
    Leads (Registered P) (selectNode ctx rollout) (fun _ => Registered P) fun _ => Registered P :=
  leads_selectNode (fun _ => Registered P) (fun _ _ => registers_call) registers_call
    (fun _ _ _ h => h) fun _ _ _ h _ _ _ _ => h

/-- What a rollout does with its node once that has the label. -/
def afterLabel (ctx : ScenarioContext) (image : String) (rollout : RolloutOptions) (node : Node) :
    Phased RolloutOutcome := do
  Phased.register (.unlabelNode node.name (nodeRoleLabel ctx.options.poolName))
  let _ ← ctx.waitOn .node node.name "node boots built image" ctx.options.timeouts.nodeImage
    (Predicates.nodeImage image)
  let output ← Phased.call (.exec node.name rollout.verifyCommand)
  return { node := node.name, output }

theorem registers_afterLabel {image : String} {rollout : RolloutOptions} {node : Node}
    (hunlabel : ∀ name label, P (.unlabelNode name label)) :
    Leads (Registered P) (afterLabel ctx image rollout node) (fun _ => Registered P)
      fun _ => Registered P := by
  refine leads_bind (registers_register (hunlabel _ _)) fun _ => ?_
  refine leads_bind registers_waitOn fun _ => leads_bind registers_call fun output => ?_
  exact leads_pure fun _ _ h => h

end Phases

/-- Before the rollout only creations and the label of the pool are registered. -/
theorem Stage.registers {s : Stage} (hs : s.phase ≠ .rollout) {P : Undo → Prop}
    (hdelete : ∀ kind name, P (.delete kind name))
    (hunlabel : ∀ name label, P (.unlabelPool name label)) :
    Leads (Registered P) s.program (fun _ => Registered P) fun _ => Registered P := by
  cases s with
  | validate options => exact Phases.registers_opening
  | provision ctx => exact Phases.registers_provision hdelete
  | optIn ctx => exact leads_bind Phases.registers_label fun _ => registers_register (hunlabel _ _)
  | buildStart ctx => exact leads_bind Phases.registers_waitOn fun _ => leads_pure fun _ _ h => h
  | buildCompletion ctx => exact Phases.registers_buildCompletion
  | rollout ctx image rolloutOptions => exact absurd rfl hs

end BuildTrial
