import BuildTrial.Proofs.Mutate.Steady
import BuildTrial.Proofs.Scenario.Blocks
import BuildTrial.Proofs.Scenario.Sequence
import BuildTrial.Proofs.Wait.Steady

/-!
# The phases are steady

Random factors stretch the pauses of the two label updates and nothing else, and the waits do not see
by how much. `Phased.Steady` carries the rules of `Program.Steady` over to the phases, and `Built.steady`
applies them to whatever the phases are built of: four pauses at most for each label.
-/

namespace BuildTrial

open Program

variable {α β σ : Type} {answer : (call : PlaneCall) → σ → Attempted call.Answer × σ}

/-- The answers of one store of a control plane. -/
def storeAnswer (answer : (call : PlaneCall) → σ → Attempted call.Answer × σ) (kind : Kind)
    (call : StoreCall kind.Model) : σ → Attempted call.Answer × σ :=
  answer (.store kind call)

theorem runIn_onStore {kind : Kind} (p : StoreProgram kind.Model α) (w : World σ) :
    (onStore kind p).runIn answer w =
      p.runIn (I := storeInterface kind.Model) (storeAnswer answer kind) w := by
  induction p generalizing w with
  | done a => rfl
  | panic payload => rfl
  | ask query next ih =>
    cases query with
    | call call => exact ih _ _
    | sleep span =>
      show (ask (I := planeInterface.timed) (.sleep span) fun r => onStore kind (next r)).runIn
        answer w = _
      rw [runIn_ask, runIn_ask, World.reply_sleep, World.reply_sleep]
      exact ih _ _
    | now => exact ih _ _
    | jitter => exact ih _ _
    | pick last => exact ih _ _

theorem endAlike_onStore {kind : Kind} {p p' : StoreProgram kind.Model α} {n : Nat}
    {w w' : World σ}
    (h : EndAlike (I := storeInterface kind.Model) (storeAnswer answer kind) n p p' w w') :
    EndAlike answer n (onStore kind p) (onStore kind p') w w' := by
  unfold EndAlike
  rw [runIn_onStore, runIn_onStore]
  exact h

theorem steady_onStore {kind : Kind} {p : StoreProgram kind.Model α} {k : Nat}
    (h : Steady (I := storeInterface kind.Model) (storeAnswer answer kind) k p) :
    Steady answer k (onStore kind p) :=
  fun n w w' hlimit hdrift => endAlike_onStore (h n w w' hlimit hdrift)

namespace Phased

/-- A part of the phases that is steady, whatever was registered before it. -/
def Steady (answer : (call : PlaneCall) → σ → Attempted call.Answer × σ) (k : Nat)
    (x : Phased α) : Prop :=
  ∀ q, Program.Steady answer k (track x.run q)

variable {k l : Nat} {x : Phased α} {f : α → Phased β}

theorem steady_pure (a : α) : Steady answer 0 (pure a : Phased α) :=
  fun _ => inStep_done _

theorem steady_throw (e : Error) : Steady answer 0 (throw e : Phased α) :=
  fun _ => inStep_done _

theorem steady_bind (hx : Steady answer k x) (hf : ∀ a, Steady answer l (f a)) :
    Steady answer (k + l) (x >>= f) := by
  intro q
  show Program.Steady answer (k + l) (track (x.run.bind (ExceptT.bindCont f)) q)
  rw [track_bind]
  refine (hx q).bind fun (ending, q') => ?_
  rcases ending with (e | a) | payload
  · exact (inStep_done _).mono (Nat.zero_le l)
  · exact hf a q'
  · exact (inStep_done _).mono (Nat.zero_le l)

theorem Steady.mono (hx : Steady answer k x) (hle : k ≤ l) : Steady answer l x :=
  fun q => (hx q).mono hle

theorem steady_seq (hx : Steady answer 0 x) (hf : ∀ a, Steady answer l (f a)) :
    Steady answer l (x >>= f) := by
  rw [← Nat.zero_add l]
  exact steady_bind hx hf

theorem steady_call (call : PlaneCall) : Steady answer 0 (Phased.call call) := by
  intro q
  refine inStep_call fun reply => ?_
  cases reply with
  | returned a => exact inStep_done _
  | panicked payload => exact inStep_done _

theorem steady_enter (phase : Phase) : Steady answer 0 (Phased.enter phase) :=
  fun _ => inStep_done _

theorem steady_register (undo : Undo) : Steady answer 0 (Phased.register undo) :=
  fun _ => inStep_done _

theorem steady_choose (candidates : List α) :
    Steady answer 0 (ExceptT.lift (Program.choose candidates) : Phased (Option α)) := by
  intro q
  cases candidates with
  | nil => exact inStep_done _
  | cons x xs => exact inStep_pick fun i => inStep_done _

theorem steady_ofStore {kind : Kind} {p : StoreProgram kind.Model (Except Error α)}
    (h : Program.Steady (I := storeInterface kind.Model) (storeAnswer answer kind) k p) :
    Steady answer k (Phased.onStore kind p) := by
  intro q
  rw [track_onStore]
  exact (BuildTrial.steady_onStore h).attempt.bind fun o => inStep_done _

end Phased

namespace Phases

open Phased

/-- Whether the deadline of a scenario is on a whole second. -/
def OnTheSecond (ctx : ScenarioContext) : Prop := ∃ secs, ctx.deadline = .ofMillis (1000 * secs)

variable {ctx : ScenarioContext}

/-- Waits that are cut off at one deadline have the same budget in both worlds. -/
theorem steady_waitOn (hctx : OnTheSecond ctx) (kind : Kind) (name description : String)
    (budget : Nat) (predicate : kind.Model → Verdict) :
    Steady answer 0 (ctx.waitOn kind name description budget predicate) := by
  obtain ⟨deadline, hdeadline⟩ := hctx
  intro q n w w' hlimit hdrift
  unfold ScenarioContext.waitOn EndAlike
  rw [track_now_bind, runIn_now_bind, runIn_now_bind, track_onStore, track_onStore, hdeadline]
  refine EndAlike.bind (l := 0) (EndAlike.attempt (endAlike_onStore ?_)) hlimit
    fun _ _ _ => inStep_done _
  exact Wait.endAlike_waitFor (Wait.pollAlike_boundedBy rfl rfl hdrift.clock) hdrift

theorem steady_label (kind : Kind) [Labelled kind.Model] (name key : String) :
    Steady answer 4 (label kind name key) :=
  steady_bind (l := 0) (steady_ofStore (steady_mutate name _)) fun _ => steady_pure ()

/-- Whatever is built of the blocks of the phases is steady; only its label updates pause. -/
theorem Built.steady {labels : List Kind} {calls : Nat} {x : Phased α} (hctx : OnTheSecond ctx)
    (h : Built ctx labels calls x) : Steady answer (4 * labels.length) x := by
  induction h with
  | pure a => exact steady_pure a
  | throw e => exact steady_throw e
  | bind _ _ ihfirst ihrest =>
    rw [List.length_append, Nat.mul_add]
    exact steady_bind ihfirst ihrest
  | call call _ => exact steady_call call
  | wait kind name description budget predicate =>
    exact steady_waitOn hctx kind name description budget predicate
  | update kind name key => exact steady_label kind name key
  | register undo => exact steady_register undo
  | choose candidates => exact steady_choose candidates
  | weaken _ _ ih => exact ih

theorem steady_rollout (hctx : OnTheSecond ctx) (image : String) (rollout : RolloutOptions) :
    Steady answer 4 (Phases.rollout ctx image rollout) := by
  rw [rollout_eq]
  refine steady_bind (l := 0) ((built_moveIn image rollout).steady hctx) fun node => ?_
  exact steady_seq (steady_call _) fun output => steady_pure _

/-- The phases with a deadline update two labels. -/
theorem steady_afterOpening (hctx : OnTheSecond ctx) : Steady answer 8 (afterOpening ctx) := by
  refine steady_seq (steady_enter _) fun _ => steady_seq (built_provision.steady hctx) fun _ => ?_
  refine steady_seq (steady_enter _) fun _ =>
    steady_bind (l := 4) (built_optIn.steady hctx) fun _ => ?_
  refine steady_seq (steady_enter _) fun _ => steady_seq (built_buildStart.steady hctx) fun _ => ?_
  refine steady_seq (steady_enter _) fun _ =>
    steady_seq (built_buildCompletion.steady hctx) fun image => ?_
  split
  · rename_i rolloutOptions _
    refine steady_seq (steady_enter _) fun _ => ?_
    refine steady_bind (l := 0) (steady_rollout hctx image rolloutOptions) fun outcome => ?_
    exact steady_pure _
  · exact (steady_pure _).mono (Nat.zero_le 4)

end Phases

end BuildTrial
