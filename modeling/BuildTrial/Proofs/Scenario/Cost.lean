import BuildTrial.Proofs.Mutate.Cost
import BuildTrial.Proofs.Scenario.Mirror
import BuildTrial.Proofs.Scenario.Steady
import BuildTrial.Proofs.Wait.Cost

/-!
# What the phases and the teardown cost

Every wait of the phases is cut off at the deadline of the scenario, and the two label updates are not:
so the phases end by the deadline or eight pauses later. The teardown waits for nothing, and takes at
most eight pauses more.
-/

namespace BuildTrial

open Program

variable {α β σ : Type} {answer : (call : PlaneCall) → σ → Attempted call.Answer × σ}
  {deadline : Nat}

theorem length_calls_onPlane {kind : Kind} (t : StoreTrace kind.Model) :
    (calls (t.map (Event.onPlane kind))).length = (calls t).length := by
  induction t with
  | nil => rfl
  | cons e t ih =>
    obtain ⟨query, reply⟩ := e
    cases query with
    | call call => exact congrArg Nat.succ ih
    | _ => exact ih

theorem trace_onStore {kind : Kind} (p : StoreProgram kind.Model α) (w : World σ) :
    (onStore kind p).trace (World.reply answer) w =
      (p.trace (World.reply (I := storeInterface kind.Model) (storeAnswer answer kind)) w).map
        (Event.onPlane kind) := by
  induction p generalizing w with
  | done a => rfl
  | panic payload => rfl
  | ask query next ih =>
    rw [trace_ask, List.map_cons, ← ih]
    cases query with
    | sleep span =>
      show trace _ (ask (I := planeInterface.timed) (.sleep span) fun r => onStore kind (next r)) w
        = _
      rw [trace_ask, World.reply_sleep, World.reply_sleep]
      rfl
    | _ => rfl

theorem spends_onStore {kind : Kind} {p : StoreProgram kind.Model α} {k n : Nat} {w : World σ}
    (h : Spends (I := storeInterface kind.Model) (storeAnswer answer kind) deadline k n p w) :
    Spends answer deadline k n (onStore kind p) w := by
  obtain ⟨hforward, hends, hcalled⟩ := h
  refine ⟨?_, ?_, ?_⟩
  · rwa [runIn_onStore]
  · rwa [runIn_onStore]
  · rwa [runIn_onStore, trace_onStore, length_calls_onPlane]

namespace Phased

/-- A part of the phases that is frugal, whatever was registered before it. -/
def Frugal (answer : (call : PlaneCall) → σ → Attempted call.Answer × σ) (deadline k n : Nat)
    (x : Phased α) : Prop :=
  ∀ q, Program.Frugal answer deadline k n (track x.run q)

variable {k l n m : Nat} {x : Phased α} {f : α → Phased β}

theorem Frugal.mono (hx : Frugal answer deadline k n x) (hk : k ≤ l) (hn : n ≤ m) :
    Frugal answer deadline l m x :=
  fun q => (hx q).mono hk hn

theorem frugal_pure (a : α) : Frugal answer deadline 0 0 (pure a : Phased α) :=
  fun _ => frugal_done _

theorem frugal_throw (e : Error) : Frugal answer deadline 0 0 (throw e : Phased α) :=
  fun _ => frugal_done _

theorem frugal_bind (hx : Frugal answer deadline k n x)
    (hf : ∀ a, Frugal answer deadline l m (f a)) :
    Frugal answer deadline (l + k) (m + n) (x >>= f) := by
  intro q
  rw [Nat.add_comm l, Nat.add_comm m]
  show Program.Frugal answer deadline (k + l) (n + m) (track (x.run.bind (ExceptT.bindCont f)) q)
  rw [track_bind]
  refine (hx q).bind fun (ending, q') => ?_
  rcases ending with (e | a) | payload
  · exact (frugal_done _).mono (Nat.zero_le l) (Nat.zero_le m)
  · exact hf a q'
  · exact (frugal_done _).mono (Nat.zero_le l) (Nat.zero_le m)

theorem frugal_call (call : PlaneCall) : Frugal answer deadline 0 1 (Phased.call call) := by
  intro q
  refine Program.frugal_call fun reply => ?_
  cases reply with
  | returned a => exact frugal_done _
  | panicked payload => exact frugal_done _

theorem frugal_enter (phase : Phase) : Frugal answer deadline 0 0 (Phased.enter phase) :=
  fun _ => frugal_done _

theorem frugal_register (undo : Undo) : Frugal answer deadline 0 0 (Phased.register undo) :=
  fun _ => frugal_done _

theorem frugal_choose (candidates : List α) :
    Frugal answer deadline 0 0 (ExceptT.lift (Program.choose candidates) : Phased (Option α)) := by
  intro q
  cases candidates with
  | nil => exact frugal_done _
  | cons x xs => exact frugal_pick fun i => frugal_done _

theorem spends_ofStore {kind : Kind} {p : StoreProgram kind.Model (Except Error α)} {w : World σ}
    (h : Spends (I := storeInterface kind.Model) (storeAnswer answer kind) deadline k n p w)
    (q : Progress) : Spends answer deadline k n (track (Phased.onStore kind p).run q) w := by
  rw [track_onStore]
  exact (spends_onStore h).attempt.bind fun _ o _ => frugal_done _

end Phased

namespace Phases

open Phased

/-- What the waits of a scenario go by: its deadline, in milliseconds, and a sleep between two
polls. -/
structure Paced (ctx : ScenarioContext) (deadline : Nat) : Prop where
  deadline : ctx.deadline = .ofMillis deadline
  interval : 0 < ctx.options.timeouts.pollInterval

variable {ctx : ScenarioContext}

theorem frugal_waitOn (hctx : Paced ctx deadline) (kind : Kind) (name description : String)
    (budget : Nat) (predicate : kind.Model → Verdict) :
    Frugal answer deadline 0 1 (ctx.waitOn kind name description budget predicate) := by
  intro q w
  unfold ScenarioContext.waitOn
  rw [track_now_bind, hctx.deadline]
  exact .now (spends_ofStore (Wait.spends_waitFor rfl hctx.interval w) q)

theorem frugal_label (kind : Kind) [Labelled kind.Model] (name key : String) :
    Frugal answer deadline 4 10 (label kind name key) :=
  frugal_bind (fun q w => spends_ofStore (frugal_mutate name _ w) q) fun _ => frugal_pure ()

/-- A label update is up to ten calls and four pauses, every other block one call at most. -/
theorem Built.frugal {labels : List Kind} {calls : Nat} {x : Phased α} (hctx : Paced ctx deadline)
    (h : Built ctx labels calls x) :
    Frugal answer deadline (4 * labels.length) (10 * labels.length + calls) x := by
  induction h with
  | pure a => exact frugal_pure a
  | throw e => exact frugal_throw e
  | @bind labels labels' calls calls' _ _ _ _ _ _ ihfirst ihrest =>
    have hpauses : 4 * (labels ++ labels').length = 4 * labels'.length + 4 * labels.length := by
      rw [List.length_append]
      omega
    have hcalls : 10 * (labels ++ labels').length + (calls' + calls) =
        (10 * labels'.length + calls') + (10 * labels.length + calls) := by
      rw [List.length_append]
      omega
    rw [hpauses, hcalls]
    exact frugal_bind ihfirst ihrest
  | call call _ => exact frugal_call call
  | wait kind name description budget predicate =>
    exact frugal_waitOn hctx kind name description budget predicate
  | update kind name key => exact frugal_label kind name key
  | register undo => exact frugal_register undo
  | choose candidates => exact frugal_choose candidates
  | weaken _ hcalls ih => exact ih.mono (Nat.le_refl _) (by omega)

theorem frugal_rollout (hctx : Paced ctx deadline) (image : String) (rollout : RolloutOptions) :
    Frugal answer deadline 4 13 (Phases.rollout ctx image rollout) := by
  rw [rollout_eq]
  refine frugal_bind ((built_moveIn image rollout).frugal hctx) fun node => ?_
  exact frugal_bind (frugal_call _) fun output => frugal_pure _

theorem frugal_afterOpening (hctx : Paced ctx deadline) :
    Frugal answer deadline 8 34 (afterOpening ctx) := by
  refine frugal_bind (frugal_enter _) fun _ => frugal_bind (built_provision.frugal hctx) fun _ => ?_
  refine frugal_bind (frugal_enter _) fun _ => frugal_bind (built_optIn.frugal hctx) fun _ => ?_
  refine frugal_bind (frugal_enter _) fun _ => frugal_bind (built_buildStart.frugal hctx) fun _ => ?_
  refine frugal_bind (frugal_enter _) fun _ =>
    frugal_bind (built_buildCompletion.frugal hctx) fun image => ?_
  split
  · rename_i rolloutOptions _
    refine frugal_bind (frugal_enter _) fun _ => ?_
    refine frugal_bind (frugal_rollout hctx image rolloutOptions) fun outcome => ?_
    exact frugal_pure _
  · exact (frugal_pure _).mono (Nat.zero_le _) (Nat.zero_le _)

end Phases

end BuildTrial
