import BuildTrial.Proofs.Mutate.Settled
import BuildTrial.Proofs.Scenario.Acquisitions
import BuildTrial.Proofs.Scenario.Blocks

/-!
# The phases register what they acquire

Whichever way the phases end and whatever the control plane replied, what they registered is what
they acquired, in the same order (`phases_acquire`). It is proved with the triple of `Phased`, along
one assertion (`At`) that has a rule for each building block of the phases. The two styles of
registration meet here: a creation or a label is registered after it happened, so an acquisition is
ahead of its registration for a moment in which nothing can fail; the deletion of the node is
registered with the choice.

The assertion carries along what else teardown relies on. The phases delete nothing, they update only
the fixtures that they created (`Owned`), and what they acquired is a beginning of one fixed list
(`plan`), whose order is what makes its mirror image safe.
-/

namespace BuildTrial.Scenario

/-- Every fixture that an event of the trace tries to update or delete was created before. -/
def Owned (t : PlaneTrace) : Prop :=
  ∀ s e u, t = s ++ e :: u → ∀ kind name,
    e.updating? = some (kind, name) ∨ e.deleting? = some (kind, name) → kind.isFixture →
      ∃ e' ∈ s, Event.created? e' = some (kind, name)

theorem Owned.append {t u : PlaneTrace} (h : Owned t)
    (hu : ∀ e ∈ u, ∀ kind name, e.updating? = some (kind, name) ∨ e.deleting? = some (kind, name) →
      kind.isFixture → ∃ e' ∈ t, Event.created? e' = some (kind, name)) : Owned (t ++ u) := by
  intro s e u' heq kind name hchange hkind
  rcases Program.exists_of_append_eq_append_cons heq with ⟨a, rfl, -⟩ | ⟨a, rfl, rfl⟩
  · exact h s e a rfl kind name hchange hkind
  · -- the event is one of the new ones
    obtain ⟨e', hmem, he'⟩ := hu e (by simp) kind name hchange hkind
    exact ⟨e', List.mem_append_left _ hmem, he'⟩

/-! ## The assertion -/

/-- A point of the phases: what they registered and acquired by then, and whether they have looked at
the nodes. -/
structure At (options : ScenarioOptions) (seen : Bool) (registered acquired : List Undo)
    (t : PlaneTrace) (q : Progress) : Prop where
  registered : q.undos = registered
  acquired : acquisitions options t = acquired
  seen : t.any Event.onNodes = seen
  undeleted : ∀ e ∈ t, Event.deleting? e = none
  owned : Owned t

/-- An event that leaves the phases with what they have: it takes hold of nothing, and it changes no
fixture but those already acquired. -/
structure Idle (options : ScenarioOptions) (seen : Bool) (acquired : List Undo) (e : PlaneEvent) :
    Prop where
  takesNothing : ∀ earlier : PlaneTrace, earlier.any Event.onNodes = seen →
    acquisition? options earlier e = none
  seen : e.onNodes = true → seen = true
  undeleted : e.deleting? = none
  owned : ∀ kind name, e.updating? = some (kind, name) → kind.isFixture →
    .delete kind name ∈ acquired

theorem Idle.silent {options : ScenarioOptions} {seen : Bool} {acquired : List Undo}
    {e : PlaneEvent} (htake : ∀ earlier, acquisition? options earlier e = none)
    (hnodes : e.onNodes = false) (hdelete : e.deleting? = none) (hupdate : e.updating? = none) :
    Idle options seen acquired e := by
  refine ⟨fun earlier _ => htake earlier, ?_, hdelete, ?_⟩
  · intro h
    rw [hnodes] at h
    cases h
  · intro kind name h
    rw [hupdate] at h
    cases h

namespace At

variable {options : ScenarioOptions} {seen : Bool} {registered acquired : List Undo}
  {t : PlaneTrace} {q : Progress}

/-- The start of the phases. -/
theorem start : At options false [] [] [] {} :=
  ⟨rfl, rfl, rfl, by simp, by intro s e u h; simp at h⟩

theorem created (h : At options seen registered acquired t q) {kind : Kind} {name : String}
    (hmem : .delete kind name ∈ acquired) : ∃ e ∈ t, e.created? = some (kind, name) := by
  rw [← h.acquired] at hmem
  exact mem_acquisitions_delete_iff.mp hmem

/-- The registration that was due. -/
theorem register {undo : Undo} (h : At options seen registered (registered ++ [undo]) t q) :
    At options seen (registered ++ [undo]) (registered ++ [undo]) t
      { q with undos := q.undos ++ [undo] } :=
  ⟨by rw [h.registered], h.acquired, h.seen, h.undeleted, h.owned⟩

/-- One more event. -/
theorem concat (h : At options seen registered acquired t q) {e : PlaneEvent} {u : Option Undo}
    (htake : acquisition? options t e = u) (hdelete : e.deleting? = none)
    (howned : ∀ kind name, e.updating? = some (kind, name) → kind.isFixture →
      .delete kind name ∈ acquired) :
    At options (seen || e.onNodes) registered (acquired ++ u.toList) (t ++ [e]) q := by
  refine ⟨h.registered, ?_, ?_, ?_, ?_⟩
  · rw [acquisitions_concat, h.acquired, htake]
  · simp [h.seen]
  · intro e' he'
    rcases List.mem_append.mp he' with he' | he'
    · exact h.undeleted e' he'
    · rw [List.mem_singleton.mp he', hdelete]
  · refine h.owned.append ?_
    intro e' he' kind name hchange hkind
    obtain rfl := List.mem_singleton.mp he'
    rcases hchange with hupdate | hdelete'
    · exact h.created (howned kind name hupdate hkind)
    · rw [hdelete] at hdelete'
      cases hdelete'

theorem idle (h : At options seen registered acquired t q) {u : PlaneTrace}
    (hu : ∀ e ∈ u, Idle options seen acquired e) :
    At options seen registered acquired (t ++ u) q := by
  induction u generalizing t with
  | nil => simpa using h
  | cons e u ih =>
    obtain ⟨he, hu⟩ := List.forall_mem_cons.mp hu
    have hstep := h.concat (he.takesNothing t h.seen) he.undeleted he.owned
    have hseen : (seen || e.onNodes) = seen := by
      cases hn : e.onNodes with
      | false => exact Bool.or_false seen
      | true => rw [he.seen hn, Bool.or_true]
    rw [hseen, Option.toList_none, List.append_nil] at hstep
    simpa using ih hstep hu

end At

/-! ## Events that take hold of nothing -/

variable {options : ScenarioOptions} {seen : Bool} {acquired : List Undo}

theorem idle_of_poll {kind : Kind} {name : String} (hkind : kind = .node → seen = true)
    {e : StoreEvent kind.Model} (h : Wait.Poll name e) :
    Idle options seen acquired (e.onPlane kind) := by
  cases h with
  | get reply =>
    cases kind with
    | node =>
      obtain rfl := hkind rfl
      refine ⟨?_, fun _ => rfl, rfl, fun _ _ h => by cases h⟩
      intro earlier hearlier
      -- the nodes were looked at before, so this read chooses none
      rcases reply with (e | snapshot) | payload
      · rfl
      · exact if_pos hearlier
      · rfl
    | _ => exact .silent (fun _ => rfl) rfl rfl rfl
  | now instant => exact .silent (fun _ => rfl) rfl rfl rfl
  | sleep span => exact .silent (fun _ => rfl) rfl rfl rfl

theorem idle_of_vain {kind : Kind} {name : String} (hkind : kind = .node → seen = true)
    (howned : kind.isFixture → .delete kind name ∈ acquired) {e : StoreEvent kind.Model}
    (h : Mutate.Vain name e) : Idle options seen acquired (e.onPlane kind) := by
  cases h with
  | get reply => exact idle_of_poll hkind (.get reply)
  | update desired expected reply h =>
    refine ⟨?_, ?_, rfl, ?_⟩
    · intro earlier _
      rcases reply with (e | v) | payload
      · cases kind <;> rfl
      · exact absurd rfl (h v)
      · cases kind <;> rfl
    · cases kind <;> simp_all [Event.onPlane, Event.onNodes]
    · rintro _ _ ⟨⟩ hfixture
      exact howned hfixture
  | jitter factor => exact .silent (fun _ => rfl) rfl rfl rfl
  | sleep span => exact idle_of_poll hkind (.sleep span : Wait.Poll name _)

/-! ## The building blocks -/

/-- What the phases create when nothing stops them. -/
def provisioned (options : ScenarioOptions) : List Undo :=
  [.delete .imageRepository imageRepositoryName, .delete .secret pullSecretCloneName,
    .delete .configMap BuildConfiguration.mapName, .delete .pool options.poolName,
    .delete .configMap Dockerfiles.mapName]

/-- What they take hold of besides, `node` being the one that is chosen for the rollout. -/
def borrowed (options : ScenarioOptions) (node : Node) : List Undo :=
  .unlabelPool options.poolName layeringLabel ::
    match options.rollout with
    | some _ => (selection options node).toList ++
        [.unlabelNode node.name (nodeRoleLabel options.poolName)]
    | none => []

/-- Everything that the phases take hold of when nothing stops them. -/
def plan (options : ScenarioOptions) (node : Node) : List Undo :=
  provisioned options ++ borrowed options node

/-- Where the phases may stop: what they registered is what they acquired, and it is a beginning of
the plan. -/
def Stopped (options : ScenarioOptions) (_ : Outcome Error) : Phased.Assertion :=
  fun t q => ∃ seen done node, done <+: plan options node ∧ At options seen done done t q

open Phased

variable {done : List Undo} {n : Node}

/-- A wait for a kind of object that the phases have looked at, or that is no node. -/
theorem leads_waitOn {ctx : ScenarioContext} {kind : Kind} {name description : String}
    {budget : Nat} {predicate : kind.Model → Verdict} (hplan : done <+: plan options n)
    (hkind : kind = .node → seen = true) :
    Leads (At options seen done done) (ctx.waitOn kind name description budget predicate)
      (fun _ => At options seen done done) (Stopped options) := by
  refine leads_bind (m := fun _ => At options seen done done) (leads_now ?_) fun now => ?_
  · intro t q h instant
    refine h.idle ?_
    rw [List.forall_mem_singleton]
    exact .silent (fun _ => rfl) rfl rfl rfl
  · refine leads_onStore ?_
    intro t q h s o hs
    have hend : At options seen done done (t ++ s.map (Event.onPlane kind)) q := by
      refine h.idle (List.forall_mem_map.mpr ?_)
      exact fun e he => idle_of_poll hkind (waitFor_polls hs e he)
    rcases o with (e | snapshot) | payload
    · exact ⟨seen, done, n, hplan, hend⟩
    · exact hend
    · exact ⟨seen, done, n, hplan, hend⟩

/-- A call that takes hold of nothing. -/
theorem leads_idleCall {call : PlaneCall} (hplan : done <+: plan options n)
    (hidle : ∀ reply, Idle options seen done ⟨.call call, reply⟩) :
    Leads (At options seen done done) (Phased.call call) (fun _ => At options seen done done)
      (Stopped options) := by
  refine leads_call ?_
  intro t q h reply
  have hend : At options seen done done (t ++ [⟨.call call, reply⟩]) q :=
    h.idle (List.forall_mem_singleton.mpr (hidle reply))
  rcases reply with (e | answer) | payload
  · exact ⟨seen, done, n, hplan, hend⟩
  · exact hend
  · exact ⟨seen, done, n, hplan, hend⟩

theorem leads_create {kind : Kind} {object : kind.Model} (hplan : done <+: plan options n)
    (hkind : kind ≠ .node) :
    Leads (At options seen done done) (Phases.create kind object)
      (fun _ => At options seen (done ++ [.delete kind (Resource.name object)])
        (done ++ [.delete kind (Resource.name object)])) (Stopped options) := by
  have hnodes : ∀ reply, Event.onNodes ⟨.call (.store kind (.create object)), reply⟩ = false := by
    intro reply
    cases kind <;> first | rfl | exact absurd rfl hkind
  refine leads_bind (m := fun _ => At options seen done
    (done ++ [.delete kind (Resource.name object)])) (leads_call ?_) fun _ => leads_register ?_
  · intro t q h reply
    rcases reply with (e | v) | payload
    · have hidle : Idle options seen done
          ⟨.call (.store kind (.create object)), .returned (.error e)⟩ :=
        .silent (fun _ => rfl) (hnodes _) rfl rfl
      exact ⟨seen, done, n, hplan, h.idle (List.forall_mem_singleton.mpr hidle)⟩
    · have hend := h.concat (e := ⟨.call (.store kind (.create object)), .returned (.ok v)⟩)
        (u := some (.delete kind (Resource.name object))) rfl rfl (fun _ _ h => by cases h)
      simp only [hnodes, Bool.or_false] at hend
      exact hend
    · have hidle : Idle options seen done
          ⟨.call (.store kind (.create object)), .panicked payload⟩ :=
        .silent (fun _ => rfl) (hnodes _) rfl rfl
      exact ⟨seen, done, n, hplan, h.idle (List.forall_mem_singleton.mpr hidle)⟩
  · intro t q h
    exact h.register

/-- Putting a label on an object takes hold of the label. -/
theorem leads_label {kind : Kind} [Labelled kind.Model] {name key : String} {undo : Undo}
    (hplan : done <+: plan options n) (hkind : kind = .node → seen = true)
    (howned : kind.isFixture → .delete kind name ∈ done)
    (hundo : ∀ earlier desired expected v, acquisition? options earlier
      ⟨.call (.store kind (.update name desired expected)), .returned (.ok v)⟩ = some undo) :
    Leads (At options seen done done) (Phases.label kind name key)
      (fun _ => At options seen done (done ++ [undo])) (Stopped options) := by
  have hvain : ∀ e : StoreEvent kind.Model, Mutate.Vain name e →
      Idle options seen done (e.onPlane kind) := fun e => idle_of_vain hkind howned
  refine leads_bind (m := fun _ => At options seen done (done ++ [undo])) (leads_onStore ?_)
    fun _ => leads_pure fun _ _ h => h
  intro t q h s o hs
  cases mutate_settled hs with
  | committed vain desired expected v =>
    -- all that comes before the update that is answered acquires nothing
    have hbefore := h.idle (List.forall_mem_map.mpr fun e he => hvain e (vain e he))
    have hend := hbefore.concat (hundo _ desired expected v) rfl (by
      rintro _ _ ⟨⟩ hfixture
      exact howned hfixture)
    have hseen : (seen || Event.onNodes
        ⟨.call (.store kind (.update name desired expected)), .returned (.ok v)⟩) = seen := by
      cases kind with
      | node => rw [hkind rfl, Bool.true_or]
      | _ => exact Bool.or_false seen
    rw [hseen] at hend
    simpa [Ended, Event.onPlane] using hend
  | failed vain hfail =>
    have hend := h.idle (List.forall_mem_map.mpr fun e he => hvain e (vain e he))
    rcases o with (e | v) | payload
    · exact ⟨seen, done, n, hplan, hend⟩
    · exact absurd rfl (hfail v)
    · exact ⟨seen, done, n, hplan, hend⟩

/-! ## The phases -/

theorem leads_findPushSecret (hplan : done <+: plan options n) :
    Leads (At options seen done done) Phases.findPushSecret (fun _ => At options seen done done)
      (Stopped options) := by
  refine leads_bind (m := fun _ => At options seen done done) (leads_idleCall hplan ?_)
    fun secrets => ?_
  · exact fun reply => .silent (fun _ => rfl) rfl rfl rfl
  · split
    · exact leads_pure fun _ _ h => h
    · exact leads_throw fun _ _ h => ⟨seen, done, n, hplan, h⟩

theorem leads_provision {ctx : ScenarioContext} (hctx : ctx.options = options) :
    Leads (At options false [] []) (Phases.provision ctx)
      (fun _ => At options false (provisioned options) (provisioned options))
      (Stopped options) := by
  subst hctx
  have hplan : ∀ n, (provisioned ctx.options).take n <+: plan ctx.options { name := "" } :=
    fun n => (List.take_prefix n _).trans (List.prefix_append _ _)
  refine leads_bind (leads_findPushSecret (hplan 0)) fun finalPushSecret => ?_
  refine leads_bind (leads_create (hplan 0) (by simp)) fun _ => ?_
  refine leads_bind (leads_waitOn (hplan 1) (by simp)) fun repository => ?_
  dsimp only
  split
  · refine leads_bind (m := fun _ => At ctx.options false [_] [_])
      (leads_pure fun _ _ h => h) fun finalPullspec => ?_
    refine leads_bind (leads_idleCall (hplan 1) ?_) fun pullSecret => ?_
    · exact fun reply => .silent (fun _ => rfl) rfl rfl rfl
    refine leads_bind (leads_create (hplan 1) (by simp)) fun _ => ?_
    refine leads_bind (leads_create (hplan 2) (by simp)) fun _ => ?_
    refine leads_bind (leads_create (hplan 3) (by simp)) fun _ => ?_
    refine leads_bind (leads_waitOn (hplan 4) (by simp)) fun _ => ?_
    exact leads_create (hplan 4) (by simp)
  · refine leads_bind (m := fun _ _ _ => False) (leads_throw fun _ _ h => ?_)
      fun _ => leads_of_false
    exact ⟨_, _, _, hplan 1, h⟩

/-- What is held once the pool is opted in as well. -/
def optedIn (options : ScenarioOptions) : List Undo :=
  provisioned options ++ [.unlabelPool options.poolName layeringLabel]

theorem leads_optIn {ctx : ScenarioContext} (hctx : ctx.options = options) :
    Leads (At options false (provisioned options) (provisioned options)) (Phases.optIn ctx)
      (fun _ => At options false (optedIn options) (optedIn options)) (Stopped options) := by
  subst hctx
  refine leads_bind (leads_label (n := { name := "" }) ?_ (by simp) ?_ ?_)
    fun _ => leads_register fun _ _ h => h.register
  · exact List.prefix_append _ _
  · simp [provisioned]
  · exact fun _ _ _ _ => rfl

theorem leads_waitOn_optedIn {ctx : ScenarioContext} {name description : String} {budget : Nat}
    {predicate : Pool → Verdict} :
    Leads (At options false (optedIn options) (optedIn options))
      (ctx.waitOn .pool name description budget predicate)
      (fun _ => At options false (optedIn options) (optedIn options)) (Stopped options) := by
  refine leads_waitOn (n := { name := "" }) ?_ (by simp)
  simp [plan, optedIn, borrowed]

theorem leads_buildStart {ctx : ScenarioContext} :
    Leads (At options false (optedIn options) (optedIn options)) (Phases.buildStart ctx)
      (fun _ => At options false (optedIn options) (optedIn options)) (Stopped options) :=
  leads_bind leads_waitOn_optedIn fun _ => leads_pure fun _ _ h => h

theorem leads_buildCompletion {ctx : ScenarioContext} :
    Leads (At options false (optedIn options) (optedIn options)) (Phases.buildCompletion ctx)
      (fun _ => At options false (optedIn options) (optedIn options)) (Stopped options) := by
  refine leads_bind leads_waitOn_optedIn fun built => ?_
  split
  · exact leads_pure fun _ _ h => h
  · refine leads_throw fun _ _ h => ⟨_, _, { name := "" }, ?_, h⟩
    simp [plan, optedIn, borrowed]

/-- The choice of a node takes hold of it if it is to be deleted. -/
theorem leads_selectNode {ctx : ScenarioContext} {rollout : RolloutOptions}
    (hctx : ctx.options = options) (hrollout : options.rollout = some rollout)
    (hplan : done <+: plan options n) :
    Leads (At options false done done) (Phases.selectNode ctx rollout)
      (fun node => At options true done (done ++ (selection options node).toList))
      (Stopped options) := by
  subst hctx
  refine Phases.leads_selectNode (fun nodes t q => At ctx.options true done done t q ∧
    t.getLast? = some ⟨.call (.store .node .list), .returned (.ok nodes)⟩)
    (fun target _ => leads_call ?_) (leads_call ?_) ?_ ?_
  · intro t q h reply
    have hnone : t.any Event.onNodes = false := h.seen
    rcases reply with (e | snapshot) | payload
    · have hend := h.concat (e := ⟨.call (.store .node (.get target)), .returned (.error e)⟩)
        (u := none) rfl rfl (fun _ _ h => by cases h)
      exact ⟨true, done, n, hplan, by simpa [Event.onNodes] using hend⟩
    · have hend := h.concat (e := ⟨.call (.store .node (.get target)), .returned (.ok snapshot)⟩)
        (u := selection ctx.options snapshot.object) (if_neg (by simp [hnone])) rfl
        (fun _ _ h => by cases h)
      simpa [Ended, Event.onNodes] using hend
    · have hend := h.concat (e := ⟨.call (.store .node (.get target)), .panicked payload⟩)
        (u := none) rfl rfl (fun _ _ h => by cases h)
      exact ⟨true, done, n, hplan, by simpa [Event.onNodes] using hend⟩
  · intro t q h reply
    have hend := h.concat (e := ⟨.call (.store .node .list), reply⟩) (u := none)
      (by rcases reply with (_ | _) | _ <;> rfl) rfl (fun _ _ h => by cases h)
    have hat : At ctx.options true done done (t ++ [⟨.call (.store .node .list), reply⟩]) q := by
      simpa [Event.onNodes] using hend
    rcases reply with (e | nodes) | payload
    · exact ⟨true, done, n, hplan, hat⟩
    · exact ⟨hat, List.getLast?_concat⟩
    · exact ⟨true, done, n, hplan, hat⟩
  · exact fun nodes t q h => ⟨true, done, n, hplan, h.1⟩
  · -- the listing comes right before the choice
    rintro nodes t q ⟨h, hlast⟩ last i node hnode
    have htake : acquisition? ctx.options t ⟨.pick last, i⟩ = selection ctx.options node := by
      simp [acquisition?, hlast, candidate?, hrollout, hnode]
    simpa [Event.onNodes] using h.concat htake rfl (fun _ _ h => by cases h)

theorem leads_joinPool {ctx : ScenarioContext} {image : String} {rollout : RolloutOptions} {node : Node}
    (hrollout : ctx.options.rollout = some rollout)
    (hacquired : done = optedIn ctx.options ++ (selection ctx.options node).toList) :
    Leads (At ctx.options true done done) (Phases.joinPool ctx image node)
      (fun node => At ctx.options true (plan ctx.options node) (plan ctx.options node))
      (Stopped ctx.options) := by
  have hplan : plan ctx.options node =
      done ++ [.unlabelNode node.name (nodeRoleLabel ctx.options.poolName)] := by
    simp [hacquired, plan, optedIn, borrowed, hrollout]
  refine leads_bind (leads_label (n := node) (hplan ▸ List.prefix_append _ _) (fun _ => rfl)
    (fun h => by cases h) fun _ _ _ _ => rfl) fun _ => ?_
  refine leads_bind (m := fun _ => At ctx.options true (plan ctx.options node)
    (plan ctx.options node)) (leads_register fun _ _ h => ?_) fun _ => ?_
  · rw [hplan]
    exact h.register
  · exact leads_bind (leads_waitOn (List.prefix_refl _) fun _ => rfl) fun _ => leads_pure fun _ _ h => h

theorem leads_rollout {ctx : ScenarioContext} {image : String} {rollout : RolloutOptions}
    (hctx : ctx.options = options) (hrollout : options.rollout = some rollout) :
    Leads (At options false (optedIn options) (optedIn options))
      (Phases.rollout ctx image rollout)
      (fun _ t q => ∃ node, At options true (plan options node) (plan options node) t q)
      (Stopped options) := by
  subst hctx
  rw [Phases.rollout_eq]
  refine leads_bind (Phases.leads_moveIn (fun node => At ctx.options true
    (optedIn ctx.options ++ (selection ctx.options node).toList)
    (optedIn ctx.options ++ (selection ctx.options node).toList))
    (leads_selectNode (n := { name := "" }) rfl hrollout ?_) ?_ ?_
    fun node => leads_joinPool hrollout rfl) fun node => ?_
  · simp [plan, optedIn, borrowed]
  · -- the node was acquired when it was chosen, so it is its registration that is due
    intro hdelete node
    have hselection : selection ctx.options node = some (.deleteNode node.name node.machine) := by
      simp [selection, hrollout, hdelete]
    rw [hselection, Option.toList_some]
    exact leads_register fun _ _ h => h.register
  · intro hkeep node t q h
    have hselection : selection ctx.options node = none := by
      simp [selection, hrollout, hkeep]
    rw [hselection, Option.toList_none, List.append_nil] at h ⊢
    exact h
  · refine leads_bind (leads_idleCall (List.prefix_refl _) ?_) fun output => ?_
    · exact fun reply => .silent (fun _ => rfl) rfl rfl rfl
    · exact leads_pure fun _ _ h => ⟨node, h⟩

theorem leads_all : Leads (At options false [] []) (Phases.all options)
    (fun _ t q => ∃ seen node, At options seen (plan options node) (plan options node) t q)
    (Stopped options) := by
  have hstart : ∀ node, ([] : List Undo) <+: plan options node := fun node => List.nil_prefix
  refine leads_bind (m := fun _ => At options false [] []) ?_ fun _ => ?_
  · cases hvalid : options.validate with
    | error e => exact leads_throw fun _ _ h => ⟨false, [], { name := "" }, hstart _, h⟩
    | ok _ => exact leads_pure fun _ _ h => h
  refine leads_bind (m := fun _ => At options false [] []) (leads_now ?_) fun started => ?_
  · intro t q h instant
    refine h.idle ?_
    rw [List.forall_mem_singleton]
    exact .silent (fun _ => rfl) rfl rfl rfl
  -- entering a phase changes none of what the ledger speaks of
  have henter : ∀ {done phase}, Leads (At options false done done) (Phased.enter phase)
      (fun _ => At options false done done) (Stopped options) :=
    leads_enter fun _ _ h => ⟨h.registered, h.acquired, h.seen, h.undeleted, h.owned⟩
  generalize started.after? (.ofSecs options.timeouts.scenario) = deadline?
  cases deadline? with
  | some deadline =>
    refine leads_bind (m := fun _ => At options false [] []) (leads_pure fun _ _ h => h)
      fun deadline => ?_
    refine leads_bind henter fun _ => leads_bind (leads_provision rfl) fun _ => ?_
    refine leads_bind henter fun _ => leads_bind (leads_optIn rfl) fun _ => ?_
    refine leads_bind henter fun _ => leads_bind leads_buildStart fun _ => ?_
    refine leads_bind henter fun _ => leads_bind leads_buildCompletion fun image => ?_
    cases hrollout : options.rollout with
    | none =>
      refine leads_pure fun _ _ h => ⟨false, { name := "" }, ?_⟩
      have hplan : plan options { name := "" } = optedIn options := by
        simp [plan, optedIn, borrowed, hrollout]
      rwa [hplan]
    | some rollout =>
      refine leads_bind henter fun _ => leads_bind (leads_rollout rfl hrollout) fun _ => ?_
      exact leads_pure fun _ _ ⟨node, h⟩ => ⟨true, node, h⟩
  | none =>
    refine leads_bind (m := fun _ _ _ => False) (leads_throw fun _ _ h => ?_)
      fun _ => leads_of_false
    exact ⟨false, [], { name := "" }, hstart _, h⟩

/-- Phases that pass have acquired the whole plan. -/
theorem acquired_of_passed {t : PlaneTrace} {passed : PhasesOutcome} {q : Progress}
    (h : (Phased.track (Phases.all options).run {}).Runs t (.returned (.returned (.ok passed), q))) :
    ∃ seen node, At options seen (plan options node) (plan options node) t q :=
  leads_all [] {} At.start t (.returned (.ok passed)) q h

/-- However the phases end, what they registered is what they acquired, in the same order. -/
theorem phases_acquire {t : PlaneTrace} {ending : Outcome (Except Error PhasesOutcome)}
    {q : Progress} (h : (Phased.track (Phases.all options).run {}).Runs t (.returned (ending, q))) :
    ∃ seen done node, done <+: plan options node ∧ At options seen done done t q := by
  rcases ending with (e | outcome) | payload
  · exact leads_all [] {} At.start t _ q h
  · obtain ⟨seen, node, hat⟩ := acquired_of_passed h
    exact ⟨seen, _, node, List.prefix_refl _, hat⟩
  · exact leads_all [] {} At.start t _ q h

end BuildTrial.Scenario
