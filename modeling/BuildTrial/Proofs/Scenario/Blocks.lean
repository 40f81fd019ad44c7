import BuildTrial.Proofs.Scenario.Phased
import BuildTrial.Proofs.Wait.Polls

/-!
# What the phases are built of

All that the phases do up to the command on the node is put together from a few blocks: reads and
creations, waits that are cut off at the deadline, updates of a label, registrations, a random choice.
`Built ctx labels calls x` says so of `x`, with the kinds of the labels that it updates and how many
calls and waits it makes at most. Whatever is proved of the blocks holds of all phases by induction on
`Built`, and no such proof has to go through the phases again.
-/

namespace BuildTrial

/-- A call that reads or creates; it changes and deletes nothing, and it runs no command. -/
def PlaneCall.isPlain : PlaneCall → Bool
  | .store _ (.update ..) | .store _ (.delete _) | .exec .. => false
  | .store _ (.get _) | .store _ .list | .store _ (.create _) | .pullSecret => true

namespace Phases

/-- A part of the phases that is put together from blocks: label updates of objects of these kinds, in
order, and up to so many calls and waits besides. -/
inductive Built (ctx : ScenarioContext) :
    (labels : List Kind) → (calls : Nat) → {α : Type} → Phased α → Prop where
  | pure {α : Type} (a : α) : Built ctx [] 0 (Pure.pure a : Phased α)
  | throw {α : Type} (e : Error) : Built ctx [] 0 (MonadExcept.throw e : Phased α)
  | bind {labels labels' : List Kind} {calls calls' : Nat} {α β : Type} {x : Phased α}
      {f : α → Phased β} (first : Built ctx labels calls x)
      (rest : ∀ a, Built ctx labels' calls' (f a)) :
      Built ctx (labels ++ labels') (calls' + calls) (x >>= f)
  | call (call : PlaneCall) (plain : call.isPlain) : Built ctx [] 1 (Phased.call call)
  | wait (kind : Kind) (name description : String) (budget : Nat)
      (predicate : kind.Model → Verdict) :
      Built ctx [] 1 (ctx.waitOn kind name description budget predicate)
  | update (kind : Kind) [Labelled kind.Model] (name key : String) :
      Built ctx [kind] 0 (label kind name key)
  | register (undo : Undo) : Built ctx [] 0 (Phased.register undo)
  | choose {α : Type} (candidates : List α) :
      Built ctx [] 0 (ExceptT.lift (Program.choose candidates) : Phased (Option α))
  | weaken {labels : List Kind} {calls calls' : Nat} {α : Type} {x : Phased α}
      (h : Built ctx labels calls x) (hcalls : calls ≤ calls') : Built ctx labels calls' x

variable {ctx : ScenarioContext}

theorem built_create (kind : Kind) (object : kind.Model) : Built ctx [] 1 (create kind object) :=
  .bind (.call _ rfl) fun _ => .register _

theorem built_findPushSecret : Built ctx [] 1 findPushSecret := by
  refine .bind (.call _ rfl) fun secrets => ?_
  split
  · exact .pure _
  · exact .throw _

theorem built_provision : Built ctx [] 9 (provision ctx) := by
  refine .bind built_findPushSecret fun finalPushSecret => ?_
  refine .bind (built_create _ _) fun _ => .bind (.wait _ _ _ _ _) fun repository => ?_
  dsimp only
  split
  · refine .bind (.pure _) fun finalPullspec => .bind (.call _ rfl) fun pullSecret => ?_
    refine .bind (built_create _ _) fun _ => .bind (built_create _ _) fun _ => ?_
    refine .bind (built_create _ _) fun _ => .bind (.wait _ _ _ _ _) fun _ => ?_
    exact built_create _ _
  · exact .weaken (.throw _) (Nat.zero_le _)

theorem built_optIn : Built ctx [.pool] 0 (optIn ctx) :=
  .bind (.update _ _ _) fun _ => .register _

theorem built_buildStart : Built ctx [] 1 (buildStart ctx) :=
  .bind (.wait _ _ _ _ _) fun _ => .pure _

theorem built_buildCompletion : Built ctx [] 1 (buildCompletion ctx) := by
  refine .bind (.wait _ _ _ _ _) fun built => ?_
  split
  · exact .pure _
  · exact .throw _

theorem built_selectNode (rollout : RolloutOptions) : Built ctx [] 1 (selectNode ctx rollout) := by
  unfold selectNode
  split
  · exact .bind (.call _ rfl) fun _ => .pure _
  · refine .bind (.call _ rfl) fun nodes => .bind (.choose _) fun chosen => ?_
    split
    · exact .pure _
    · exact .throw _

/-- What a rollout does before the command is run: it chooses a node, moves it into the pool and waits
until it has booted the image. -/
def moveIn (ctx : ScenarioContext) (image : String) (rollout : RolloutOptions) : Phased Node := do
  let node ← selectNode ctx rollout
  if rollout.deleteNode then Phased.register (.deleteNode node.name node.machine)
  let roleLabel := nodeRoleLabel ctx.options.poolName
  label .node node.name roleLabel
  Phased.register (.unlabelNode node.name roleLabel)
  let _ ← ctx.waitOn .node node.name "node boots built image" ctx.options.timeouts.nodeImage
    (Predicates.nodeImage image)
  return node

theorem rollout_eq (image : String) (rollout : RolloutOptions) :
    Phases.rollout ctx image rollout = moveIn ctx image rollout >>= fun node =>
      Phased.call (.exec node.name rollout.verifyCommand) >>= fun output =>
        return { node := node.name, output } := by
  unfold Phases.rollout moveIn
  rw [bind_assoc]
  refine bind_congr fun node => ?_
  dsimp only
  split
  all_goals simp only [bind_assoc, pure_bind]

/-- What it does with the node that it has chosen, once the deletion of the node is registered or left
out. -/
def joinPool (ctx : ScenarioContext) (image : String) (node : Node) : Phased Node := do
  label .node node.name (nodeRoleLabel ctx.options.poolName)
  Phased.register (.unlabelNode node.name (nodeRoleLabel ctx.options.poolName))
  let _ ← ctx.waitOn .node node.name "node boots built image" ctx.options.timeouts.nodeImage
    (Predicates.nodeImage image)
  return node

theorem moveIn_eq (image : String) (rollout : RolloutOptions) :
    moveIn ctx image rollout = selectNode ctx rollout >>= fun node =>
      if rollout.deleteNode then
        Phased.register (.deleteNode node.name node.machine) >>= fun _ => joinPool ctx image node
      else joinPool ctx image node := rfl

theorem built_joinPool (image : String) (node : Node) :
    Built ctx [.node] 1 (joinPool ctx image node) :=
  .bind (.update _ _ _) fun _ => .bind (.register _) fun _ => .bind (.wait _ _ _ _ _) fun _ =>
    .pure node

theorem built_moveIn (image : String) (rollout : RolloutOptions) :
    Built ctx [.node] 2 (moveIn ctx image rollout) := by
  rw [moveIn_eq]
  refine .bind (built_selectNode rollout) fun node => ?_
  split
  · exact .bind (.register _) fun _ => built_joinPool image node
  · exact built_joinPool image node

/-! ## Rules for the rollout -/

section

open Phased

variable {rollout : RolloutOptions} {pre : Assertion} {stop : Outcome Error → Assertion}

/-- The rule for the choice of a node: the first one asked for is read, and `post` holds of it. Without
one the nodes are listed, which leads to `listed`, and one of the candidates is picked if there are
any. -/
theorem leads_selectNode {post : Node → Assertion} (listed : List (Versioned Node) → Assertion)
    (hasked : ∀ target, ctx.options.targetNodes.head? = some target →
      Leads pre (Phased.call (.store .node (.get target))) (fun v => post v.object) stop)
    (hlisted : Leads pre (Phased.call (.store .node .list)) listed stop)
    (hnone : ∀ nodes t q, listed nodes t q →
      stop (.returned (.notFound Kind.node.text s!"any {rollout.nodeRole} node")) t q)
    (hpicked : ∀ nodes t q, listed nodes t q → ∀ (last : Nat) (i : Fin (last + 1)) (node : Node),
      ((nodes.map (·.object)).filter
        (isCandidate rollout.nodeRole ctx.options.poolName))[i.val]? = some node →
      post node (t ++ [⟨.pick last, i⟩]) q) :
    Leads pre (selectNode ctx rollout) post stop := by
  unfold selectNode
  split
  · rename_i target _ htargets
    have htarget : ctx.options.targetNodes.head? = some target := by
      rw [htargets]
      rfl
    exact leads_bind (hasked target htarget) fun _ => leads_pure fun _ _ h => h
  · refine leads_bind hlisted fun nodes => ?_
    refine leads_bind (m := fun chosen => chosen.elim (listed nodes) post)
      (leads_choose (fun _ _ h _ => h) ?_) fun chosen => ?_
    · intro t q h x xs hcandidates i
      have hchosen : (x :: xs)[i.val]? = some (x :: xs)[i.val] := List.getElem?_eq_getElem i.isLt
      rw [hchosen]
      exact hpicked nodes t q h _ i _ (by rw [hcandidates, hchosen])
    · cases chosen with
      | none => exact leads_throw (hnone nodes)
      | some node => exact leads_pure fun _ _ h => h

/-- The rule for moving a node in: `chosen` holds once there is a node, and `due` once its deletion is
registered, if it is to be deleted. -/
theorem leads_moveIn {image : String} {chosen post : Node → Assertion} (due : Node → Assertion)
    (hselect : Leads pre (selectNode ctx rollout) chosen stop)
    (hdelete : rollout.deleteNode = true → ∀ node, Leads (chosen node)
      (Phased.register (.deleteNode node.name node.machine)) (fun _ => due node) stop)
    (hkeep : rollout.deleteNode = false → ∀ node t q, chosen node t q → due node t q)
    (hjoin : ∀ node, Leads (due node) (joinPool ctx image node) post stop) :
    Leads pre (moveIn ctx image rollout) post stop := by
  rw [moveIn_eq]
  refine leads_bind hselect fun node => ?_
  cases hd : rollout.deleteNode with
  | true => exact leads_bind (hdelete hd node) fun _ => hjoin node
  | false => exact (hjoin node).weaken (hkeep hd node) (fun _ _ _ h => h) fun _ _ _ h => h

end

/-! ## What the blocks ask -/

variable {α β : Type} {P : PlaneEvent → Prop}

theorem asks_track_bind {x : Phased α} {f : α → Phased β}
    (hx : ∀ q, (Phased.track x.run q).Asks P) (hf : ∀ a q, (Phased.track (f a).run q).Asks P)
    (q : Progress) : (Phased.track (x >>= f).run q).Asks P := by
  show (Phased.track (x.run.bind (ExceptT.bindCont f)) q).Asks P
  rw [Phased.track_bind]
  refine (hx q).bind fun (ending, q') => ?_
  rcases ending with (e | a) | payload
  · exact Program.asks_done _
  · exact hf a q'
  · exact Program.asks_done _

theorem asks_track_call {call : PlaneCall} (h : ∀ reply, P ⟨.call call, reply⟩) (q : Progress) :
    (Phased.track (Phased.call call).run q).Asks P := by
  refine Program.asks_ask h fun reply => ?_
  cases reply <;> exact Program.asks_done _

theorem asks_track_onStore {kind : Kind} {p : StoreProgram kind.Model (Except Error α)}
    (h : p.Asks fun e => P (e.onPlane kind)) (q : Progress) :
    (Phased.track (Phased.onStore kind p).run q).Asks P := by
  rw [Phased.track_onStore]
  exact (asks_onStore h).attempt.bind fun _ => Program.asks_done _

/-- Whatever is said of plain calls, of updates of these kinds, and of everything that is no call,
holds of all that the blocks ask. -/
theorem Built.asks {labels : List Kind} {calls : Nat} {x : Phased α}
    (h : Built ctx labels calls x)
    (hplain : ∀ call reply, call.isPlain → P ⟨.call call, reply⟩)
    (hupdate : ∀ kind ∈ labels, ∀ name desired expected reply,
      P ⟨.call (.store kind (.update name desired expected)), reply⟩)
    (hnow : ∀ instant, P ⟨.now, instant⟩) (hsleep : ∀ span, P ⟨.sleep span, ()⟩)
    (hjitter : ∀ factor, P ⟨.jitter, factor⟩) (hpick : ∀ last i, P ⟨.pick last, i⟩) (q : Progress) :
    (Phased.track x.run q).Asks P := by
  induction h generalizing q with
  | pure a => exact Program.asks_done _
  | throw e => exact Program.asks_done _
  | bind _ _ ihfirst ihrest =>
    refine asks_track_bind (ihfirst fun kind hmem => hupdate kind ?_) (fun a => ihrest a
      fun kind hmem => hupdate kind ?_) q
    · exact List.mem_append_left _ hmem
    · exact List.mem_append_right _ hmem
  | call call plain => exact asks_track_call (fun reply => hplain call reply plain) q
  | wait kind name description budget predicate =>
    unfold ScenarioContext.waitOn
    rw [Phased.track_now_bind]
    refine asks_now_bind hnow fun now => asks_track_onStore ?_ q
    intro t o hr e he
    cases waitFor_polls hr e he with
    | get reply => exact hplain _ _ rfl
    | now instant => exact hnow instant
    | sleep span => exact hsleep span
  | update kind name key =>
    refine asks_track_bind (asks_track_onStore (asks_mutate ?_ ?_ hjitter hsleep))
      (fun _ _ => Program.asks_done _) q
    · exact fun reply => hplain _ _ rfl
    · exact fun _ desired expected reply _ => hupdate kind (List.mem_singleton_self kind) _ _ _ _
  | register undo => exact Program.asks_done _
  | choose candidates =>
    cases candidates with
    | nil => exact Program.asks_done _
    | cons x xs => exact Program.asks_ask (hpick _) fun i => Program.asks_done _
  | weaken _ _ ih => exact ih hupdate q

end Phases

end BuildTrial
