import BuildTrial.Proofs.Scenario.Knowledge
import BuildTrial.Proofs.Scenario.Mirror
import BuildTrial.Proofs.Scenario.Verdict

/-!
# What has to be seen before what is done

Three things that a run does have consequences outside of it: the layering label makes the controller
build, the role label makes a node boot the image, and the command is run on a host. Each of them is
attempted only on evidence, in any run and whatever the control plane does (`run_gated`). `Justified`
says which evidence each of them needs. The same evidence is behind the outcome of a run that passed.
-/

namespace BuildTrial

open Phased

variable {options : ScenarioOptions}

/-! ## Evidence -/

namespace Event

def isExec : PlaneEvent → Bool
  | ⟨.call (.exec ..), _⟩ => true
  | _ => false

/-- What has to be seen before the event, in `s`, of a run that builds this image. -/
structure Justified (options : ScenarioOptions) (image : String) (e : PlaneEvent)
    (s : PlaneTrace) : Prop where
  /-- The pool is opted in once everything is provisioned. -/
  layering : ∀ name reply, Labels .pool name layeringLabel reply e → Provisioned options s
  /-- A node is moved into the pool once there is the image. -/
  role : ∀ name reply, Labels .node name (nodeRoleLabel options.poolName) reply e →
    ∃ t, t <+: s ∧ Completed options image t
  /-- The command of the options is run on the node that was moved in, right after a read that showed
  it with the image. -/
  exec : ∀ node command reply, e = ⟨.call (.exec node command), reply⟩ →
    (∃ rolloutOptions, options.rollout = some rolloutOptions ∧
      command = rolloutOptions.verifyCommand) ∧
    (∃ t, t <+: s ∧ Completed options image t) ∧
    Phases.Booted node (nodeRoleLabel options.poolName) image s

/-- An event that needs no evidence: it puts neither of the two labels anywhere and runs nothing. -/
structure Free (options : ScenarioOptions) (e : PlaneEvent) : Prop where
  layering : ∀ name reply, ¬Labels .pool name layeringLabel reply e
  role : ∀ name reply, ¬Labels .node name (nodeRoleLabel options.poolName) reply e
  exec : e.isExec = false

theorem Free.justified {image : String} {e : PlaneEvent} (h : e.Free options) (s : PlaneTrace) :
    e.Justified options image s := by
  refine ⟨fun name reply hl => absurd hl (h.layering name reply),
    fun name reply hl => absurd hl (h.role name reply), ?_⟩
  rintro node command reply rfl
  cases h.exec

theorem free_of_unchanging {e : PlaneEvent} (hupdate : e.updating? = none)
    (hexec : e.isExec = false) : e.Free options := by
  refine ⟨fun name reply h => ?_, fun name reply h => ?_, hexec⟩
  · cases hupdate.symm.trans h.updating
  · cases hupdate.symm.trans h.updating

end Event

/-- Every event of the trace comes after what it needs. -/
def Gated (options : ScenarioOptions) (image : String) (t : PlaneTrace) : Prop :=
  ∀ s e u, t = s ++ e :: u → e.Justified options image s

namespace Gated

variable {image : String} {t u : PlaneTrace}

theorem append (ht : Gated options image t)
    (hu : ∀ s e u', u = s ++ e :: u' → e.Justified options image (t ++ s)) :
    Gated options image (t ++ u) :=
  Program.Throughout.append ht hu

theorem concat {e : PlaneEvent} (ht : Gated options image t) (he : e.Justified options image t) :
    Gated options image (t ++ [e]) :=
  Program.Throughout.concat ht he

theorem append_free (ht : Gated options image t) (hu : ∀ e ∈ u, Event.Free options e) :
    Gated options image (t ++ u) :=
  ht.append fun s e _ h => (hu e (by simp [h])).justified _

end Gated

/-! ## What the stages ask -/

/-- The kinds of objects of which a stage updates labels. -/
def Stage.labels : Stage → List Kind
  | .optIn _ => [.pool]
  | .rollout .. => [.node]
  | .validate _ | .provision _ | .buildStart _ | .buildCompletion _ => []

/-- An event of a part that updates labels of these kinds only, and runs no command. -/
def Event.Within (labels : List Kind) (e : PlaneEvent) : Prop :=
  e.isExec = false ∧ ∀ kind name, e.updating? = some (kind, name) → kind ∈ labels

theorem Phases.Built.asks_within {ctx : ScenarioContext} {labels : List Kind} {calls : Nat}
    {α : Type} {x : Phased α} (h : Built ctx labels calls x) (q : Progress) :
    (track x.run q).Asks (Event.Within labels) := by
  refine h.asks ?_ ?_ ?_ ?_ ?_ ?_ q
  · intro call reply hplain
    cases call with
    | store kind call =>
      cases call with
      | update => cases hplain
      | _ => exact ⟨rfl, fun _ _ h => by cases h⟩
    | exec node command => cases hplain
    | pullSecret => exact ⟨rfl, fun _ _ h => by cases h⟩
  · rintro kind hmem name desired expected reply
    exact ⟨rfl, fun _ _ h => by cases h; exact hmem⟩
  · exact fun _ => ⟨rfl, fun _ _ h => by cases h⟩
  · exact fun _ => ⟨rfl, fun _ _ h => by cases h⟩
  · exact fun _ => ⟨rfl, fun _ _ h => by cases h⟩
  · exact fun _ _ => ⟨rfl, fun _ _ h => by cases h⟩

theorem asks_within_opening (q : Progress) :
    (track (Phases.opening options).run q).Asks (Event.Within []) := by
  cases hvalid : options.validate with
  | error e =>
    rw [Phases.opening_of_invalid hvalid]
    exact Program.asks_done _
  | ok _ =>
    have hcontext : ∀ deadline?, (track (Phases.contextOf options deadline?).run q).Asks
        (Event.Within []) := by
      intro deadline?
      cases deadline? <;> exact Program.asks_done _
    rw [Phases.opening_of_valid hvalid, track_now_bind]
    refine asks_now_bind (fun _ => ⟨rfl, fun _ _ h => by cases h⟩) fun started => ?_
    exact hcontext _

/-- Only the rollout runs a command, and only it and the opt-in update labels. -/
theorem Stage.asks_within {s : Stage} (hs : s.phase ≠ .rollout) (q : Progress) :
    (track s.program.run q).Asks (Event.Within s.labels) := by
  cases s with
  | validate options => exact asks_within_opening q
  | provision ctx => exact Phases.built_provision.asks_within q
  | optIn ctx => exact Phases.built_optIn.asks_within q
  | buildStart ctx => exact Phases.built_buildStart.asks_within q
  | buildCompletion ctx => exact Phases.built_buildCompletion.asks_within q
  | rollout ctx image rolloutOptions => exact absurd rfl hs

/-- An event within what a stage asks is justified by what the labels of its kinds need. -/
theorem Event.Within.justified {labels : List Kind} {image : String} {e : PlaneEvent}
    (h : e.Within labels) {s : PlaneTrace} (hlayering : .pool ∈ labels → Provisioned options s)
    (hrole : .node ∈ labels → ∃ t, t <+: s ∧ Completed options image t) :
    e.Justified options image s := by
  refine ⟨fun name reply hl => hlayering (h.2 _ _ hl.updating),
    fun name reply hl => hrole (h.2 _ _ hl.updating), ?_⟩
  rintro node command reply rfl
  cases h.1

/-! ## The rollout -/

/-- What a rollout asks and brings. It stops on the way, or it runs the command on a node that has
booted the image, and brings what the command printed there. -/
inductive RolledOut (ctx : ScenarioContext) (image : String) (rolloutOptions : RolloutOptions) :
    PlaneTrace → Outcome (Except Error RolloutOutcome) → Prop where
  | stopped {t : PlaneTrace} {o : Outcome (Except Error RolloutOutcome)}
      (moving : ∀ e ∈ t, Event.Within [.node] e) (h : ∀ outcome, o ≠ .returned (.ok outcome)) :
      RolledOut ctx image rolloutOptions t o
  | verified {t : PlaneTrace} {o : Outcome (Except Error RolloutOutcome)} (node : String)
      (moving : ∀ e ∈ t, Event.Within [.node] e)
      (booted : Phases.Booted node (nodeRoleLabel ctx.options.poolName) image t)
      (reply : Attempted String)
      (h : ∀ outcome, o = .returned (.ok outcome) →
        outcome.node = node ∧ reply = .returned (.ok outcome.output)) :
      RolledOut ctx image rolloutOptions
        (t ++ [⟨.call (.exec node rolloutOptions.verifyCommand), reply⟩]) o

theorem rolledOut_of_runs {ctx : ScenarioContext} {image : String} {rolloutOptions : RolloutOptions}
    {q q' : Progress} {t : PlaneTrace} {o : Outcome (Except Error RolloutOutcome)}
    (h : (track (Phases.rollout ctx image rolloutOptions).run q).Runs t (.returned (o, q'))) :
    RolledOut ctx image rolloutOptions t o := by
  have hbuilt : Phases.Built ctx [.node] 2 _ := Phases.built_moveIn image rolloutOptions
  have hmoving := hbuilt.asks_within q
  rw [Phases.rollout_eq] at h
  rcases runs_track_bind h with ⟨t, node, q₁, t', rfl, hmove, hexec⟩ | ⟨stop, hmove, rfl⟩
  · obtain ⟨reply, t', rfl, hend⟩ := Program.runs_ask_iff.mp hexec
    have hbooted := Phases.leads_moveIn_booted.alone hmove
    -- nothing is asked after the command, whatever it comes back with
    rcases reply with (e | output) | payload
    all_goals
      obtain ⟨rfl, ho⟩ := Program.runs_done_iff.mp hend
      cases ho
      refine .verified node.name (hmoving _ _ hmove) hbooted _ ?_
      rintro outcome ⟨⟩
    exact ⟨rfl, rfl⟩
  · exact .stopped (hmoving _ _ hmove) stop.stopping_ne_ok

theorem Phases.Booted.prepend {name label image : String} {t : PlaneTrace}
    (h : Booted name label image t) (s : PlaneTrace) : Booted name label image (s ++ t) := by
  obtain ⟨⟨e, hmem, hlabels⟩, v, hshown, himage⟩ := h
  refine ⟨⟨e, List.mem_append_right s hmem, hlabels⟩, v, ?_, himage⟩
  rw [ShownLast] at hshown ⊢
  rw [List.getLast?_append, hshown, Option.some_or]

/-! ## The stages in order -/

namespace Reached

variable {s : Stage} {before during : PlaneTrace} {q q' : Progress}
  {ending : Outcome (Except Error s.Answer)} {image : String}

/-- What a stage may do, it may do as soon as it is reached. -/
theorem justified (h : Reached options s before q)
    (himage : ∀ ctx image' rolloutOptions, s = .rollout ctx image' rolloutOptions → image' = image)
    {e : PlaneEvent} (he : e.Within s.labels) (u : PlaneTrace) :
    e.Justified options image (before ++ u) := by
  refine he.justified (fun hmem => ?_) fun hmem => ?_
  · refine (h.provisioned ?_).append u
    cases s with
    | optIn ctx => exact List.cons_ne_nil _ _
    | _ => simp [Stage.labels] at hmem
  · cases s with
    | rollout ctx image' rolloutOptions =>
      obtain rfl := himage _ _ _ rfl
      exact ⟨before, List.prefix_append _ _, h.completed.2⟩
    | _ => simp [Stage.labels] at hmem

theorem gated_during (h : Reached options s before q) (hgated : Gated options image before)
    (himage : ∀ ctx image' rolloutOptions, s = .rollout ctx image' rolloutOptions → image' = image)
    (hr : (track s.program.run q).Runs during (.returned (ending, q'))) :
    Gated options image (before ++ during) := by
  have hwithin : ∀ u : PlaneTrace, (∀ e ∈ u, Event.Within s.labels e) →
      Gated options image (before ++ u) := fun u hu =>
    hgated.append fun t e _ heq => h.justified himage (hu e (by simp [heq])) t
  cases s with
  | rollout ctx image' rolloutOptions =>
    obtain rfl := himage _ _ _ rfl
    have hctx : ctx.options = options := h.registered.1
    obtain ⟨hrollout, hcompleted⟩ := h.completed
    cases rolledOut_of_runs hr with
    | stopped moving _ => exact hwithin during moving
    | @verified u _ node moving booted reply _ =>
      -- the command is the last event, and all before it is what moved the node in
      rw [← List.append_assoc]
      refine (hwithin u moving).concat ⟨fun _ _ hl => (by cases hl.updating),
        fun _ _ hl => (by cases hl.updating), ?_⟩
      rintro _ _ _ ⟨⟩
      rw [hctx] at booted
      exact ⟨⟨_, hrollout, rfl⟩, ⟨before, List.prefix_append _ _, hcompleted⟩,
        booted.prepend before⟩
  | _ => exact hwithin during (Stage.asks_within (by simp [Stage.phase]) q _ _ hr)

theorem phase_ne_rollout {a : s.Answer} {s' : Stage} (h : s.next a = .inl s') :
    s.phase ≠ .rollout := by
  cases s with
  | rollout => cases h
  | _ => simp [Stage.phase]

theorem gated (h : Reached options s before q) : ∀ image, Gated options image before := by
  induction h with
  | start => exact fun _ _ _ _ heq => by simp at heq
  | @step s _ _ _ _ _ _ before passed next ih =>
    refine fun image => before.gated_during (ih image) ?_ passed
    -- only a rollout goes by the image, and no stage follows a rollout
    rintro _ _ _ rfl
    cases next

theorem no_exec (h : Reached options s before q) : before.countP Event.isExec = 0 := by
  induction h with
  | start => rfl
  | step _ passed next ih =>
    rw [List.countP_append, ih, Nat.zero_add, List.countP_eq_zero]
    intro e he
    simp [(Stage.asks_within (phase_ne_rollout next) _ _ _ passed e he).1]

theorem one_exec (h : Reached options s before q)
    (hr : (track s.program.run q).Runs during (.returned (ending, q'))) :
    (before ++ during).countP Event.isExec ≤ 1 := by
  have hwithin : ∀ labels, ∀ u : PlaneTrace, (∀ e ∈ u, Event.Within labels e) →
      u.countP Event.isExec = 0 := fun _ u hu =>
    List.countP_eq_zero.mpr fun e he => by simp [(hu e he).1]
  rw [List.countP_append, h.no_exec, Nat.zero_add]
  cases s with
  | rollout ctx image rolloutOptions =>
    cases rolledOut_of_runs hr with
    | stopped moving _ => simp [hwithin _ during moving]
    | @verified u _ node moving booted reply _ => simp [hwithin _ u moving, Event.isExec]
  | _ => simp [hwithin _ _ (Stage.asks_within (by simp [Stage.phase]) q _ _ hr)]

end Reached

/-! ## The outcome -/

/-- What stands behind the outcome of a run with this trace. -/
structure Evidenced (options : ScenarioOptions) (outcome : PhasesOutcome) (t : PlaneTrace) :
    Prop where
  image : ∃ s, s <+: t ∧ Completed options outcome.image s
  /-- There is a rollout just if one was asked for. -/
  asked : outcome.rollout.isSome = options.rollout.isSome
  /-- It brings what the command printed on its node. -/
  verified : ∀ rolloutOptions rolledOut, options.rollout = some rolloutOptions →
    outcome.rollout = some rolledOut →
    ⟨.call (.exec rolledOut.node rolloutOptions.verifyCommand),
      .returned (.ok rolledOut.output)⟩ ∈ t

theorem Evidenced.append {outcome : PhasesOutcome} {t : PlaneTrace}
    (h : Evidenced options outcome t) (u : PlaneTrace) : Evidenced options outcome (t ++ u) := by
  obtain ⟨s, hprefix, hcompleted⟩ := h.image
  refine ⟨⟨s, hprefix.trans (List.prefix_append t u), hcompleted⟩, h.asked, ?_⟩
  exact fun _ _ hasked hrolledOut => List.mem_append_left u (h.verified _ _ hasked hrolledOut)

theorem Reached.evidenced {s : Stage} {before during : PlaneTrace} {q q' : Progress} {a : s.Answer}
    {outcome : PhasesOutcome} (h : Reached options s before q)
    (hr : (track s.program.run q).Runs during (.returned (.returned (.ok a), q')))
    (hlast : s.next a = .inr outcome) : Evidenced options outcome (before ++ during) := by
  have hscenario := h.registered.1
  cases s with
  | buildCompletion ctx =>
    obtain rfl : ctx.options = options := hscenario
    simp only [Stage.next] at hlast
    split at hlast
    · cases hlast
    · rename_i hrollout
      cases hlast
      refine ⟨⟨_, List.prefix_refl _, h.completes hr⟩, by rw [hrollout]; rfl, ?_⟩
      rintro _ _ _ ⟨⟩
  | rollout ctx image rolloutOptions =>
    cases hlast
    obtain ⟨hrollout, hcompleted⟩ := h.completed
    refine ⟨⟨before, List.prefix_append _ _, hcompleted⟩, by rw [hrollout]; rfl, ?_⟩
    rintro _ _ hasked ⟨⟩
    obtain rfl := Option.some.inj (hrollout.symm.trans hasked)
    cases rolledOut_of_runs hr with
    | stopped _ hstopped => exact absurd rfl (hstopped a)
    | verified _ _ _ _ hbrings =>
      obtain ⟨rfl, rfl⟩ := hbrings a rfl
      simp
  | _ => cases hlast

/-- There is one image that all of a run is about. -/
theorem Stage.exists_image {s : Stage} {ending' : Outcome (Except Error s.Answer)}
    {ending : Outcome (Except Error PhasesOutcome)} (h : s.Ends ending' ending) :
    ∃ image, (∀ ctx image' rolloutOptions, s = .rollout ctx image' rolloutOptions →
        image' = image) ∧
      ∀ outcome, ending = .returned (.ok outcome) → outcome.image = image := by
  cases s with
  | rollout ctx image rolloutOptions =>
    refine ⟨image, by rintro _ _ _ ⟨⟩; rfl, ?_⟩
    rintro outcome rfl
    cases h with
    | passed a _ hlast =>
      cases hlast
      rfl
  | _ =>
    rcases ending with (e | outcome) | payload
    · exact ⟨"", by rintro _ _ _ ⟨⟩, by rintro _ ⟨⟩⟩
    · exact ⟨outcome.image, by rintro _ _ _ ⟨⟩, by rintro _ ⟨⟩; rfl⟩
    · exact ⟨"", by rintro _ _ _ ⟨⟩, by rintro _ ⟨⟩⟩

/-! ## The teardown -/

namespace Undo

/-- Nothing that is asked of a store runs a command. -/
theorem isExec_of_onPlane {kind : Kind} {s : StoreTrace kind.Model} {e : PlaneEvent}
    (he : e ∈ s.map (Event.onPlane kind)) : e.isExec = false := by
  obtain ⟨⟨query, reply⟩, -, rfl⟩ := List.mem_map.mp he
  cases query <;> rfl

theorem label_of_mem_plan {node : Node} {undo : Undo} (h : undo ∈ Scenario.plan options node) :
    (∀ name label, undo = .unlabelPool name label → label = layeringLabel) ∧
      ∀ name label, undo = .unlabelNode name label → label = nodeRoleLabel options.poolName := by
  rcases List.mem_append.mp h with h | h
  · have hdelete := Scenario.isDelete_of_mem_provisioned h
    constructor <;> (rintro name label rfl; cases hdelete)
  · rcases Scenario.eq_of_mem_borrowed h with rfl | rfl | rfl <;>
      constructor <;> rintro name label heq <;> cases heq <;> rfl

/-- No undoing of the plan puts a label anywhere or runs a command. -/
theorem Performed.free {node : Node} {undo : Undo} {t : PlaneTrace} (h : Performed undo t)
    (hplan : undo ∈ Scenario.plan options node) : ∀ e ∈ t, Event.Free options e := by
  obtain ⟨hpool, hnode⟩ := label_of_mem_plan hplan
  intro e he
  cases h with
  | delete kind name reply =>
    obtain rfl := List.mem_singleton.mp he
    exact Event.free_of_unchanging rfl rfl
  | @unlabelPool name label s o hs =>
    -- the update takes the label off, and what it updates is no node
    obtain rfl := hpool _ _ rfl
    have hupdated := ((mutate_settled hs).changed (k := .pool) he).2.2
    refine ⟨?_, fun name reply hl => (by cases hupdated _ hl.updating), isExec_of_onPlane he⟩
    rintro n reply ⟨desired, expected, _, hlabel⟩
    exact Bool.false_ne_true (((Performed.unlabelPool hs).lacks_pool he).symm.trans hlabel)
  | @unlabelNode name label s o hs =>
    obtain rfl := hnode _ _ rfl
    have hupdated := ((mutate_settled hs).changed (k := .node) he).2.2
    refine ⟨fun name reply hl => (by cases hupdated _ hl.updating), ?_, isExec_of_onPlane he⟩
    rintro n reply ⟨desired, expected, _, hlabel⟩
    exact Bool.false_ne_true (((Performed.unlabelNode hs).lacks_node he).symm.trans hlabel)
  | nodeOnly name machine reply _ =>
    obtain rfl := List.mem_singleton.mp he
    exact Event.free_of_unchanging rfl rfl
  | nodeAndMachine name machine reply reply' _ =>
    simp only [List.mem_cons, List.not_mem_nil, or_false] at he
    rcases he with rfl | rfl <;> exact Event.free_of_unchanging rfl rfl

end Undo

/-- What a teardown asks, it asks in an attempt at one of the undoings. -/
theorem TornDown.exists_performed {undos : List Undo} {skip : Bool} {t : PlaneTrace}
    {cleanup : CleanupReport} (h : TornDown undos skip t cleanup) {e : PlaneEvent} (he : e ∈ t) :
    ∃ undo ∈ undos, ∃ attempt, Undo.Performed undo attempt ∧ e ∈ attempt := by
  cases h with
  | skipped => cases he
  | attempted attempts each =>
    have hperformed : List.Forall₂ Undo.Performed undos.reverse (attempts.map (·.1)) := by
      rw [List.forall₂_map_right_iff]
      exact each.imp fun _ _ => Undo.performed_of_runs
    obtain ⟨undo, hmem, attempt, hundo, he⟩ := Scenario.exists_performed_of_mem hperformed he
    exact ⟨undo, List.mem_reverse.mp hmem, attempt, hundo, he⟩

theorem TornDown.free {n : Node} {undos : List Undo} {skip : Bool} {t : PlaneTrace}
    {cleanup : CleanupReport} (h : TornDown undos skip t cleanup)
    (hplan : ∀ undo ∈ undos, undo ∈ Scenario.plan options n) :
    ∀ e ∈ t, Event.Free options e := by
  intro e he
  obtain ⟨undo, hmem, attempt, hundo, he⟩ := h.exists_performed he
  exact hundo.free (hplan undo hmem) e he

/-- Before the command runs a node was given the label of the pool. -/
theorem Gated.exists_labels_of_isExec {image : String} {t : PlaneTrace} {e : PlaneEvent}
    (h : Gated options image t) (he : e ∈ t) (hexec : e.isExec = true) :
    ∃ e ∈ t, ∃ name reply,
      Event.Labels .node name (nodeRoleLabel options.poolName) reply e := by
  obtain ⟨s, u, rfl⟩ := List.append_of_mem he
  unfold Event.isExec at hexec
  split at hexec
  · obtain ⟨-, -, ⟨e, he, v, hlabels⟩, -⟩ := (h s _ u rfl).exec _ _ _ rfl
    exact ⟨e, List.mem_append_left _ he, _, _, hlabels⟩
  · cases hexec

/-! ## The whole run -/

namespace Scenario

/-- Whatever the control plane does, a run opts the pool in only when everything was provisioned, moves
a node into the pool only when the build was seen completed, and runs the command of the options, once
at most, only on that node and right after it was seen with the image of that build. A run that passes
has this image as its outcome, and a rollout, if one was asked for, with what that command printed. -/
theorem run_gated {t : PlaneTrace} {o : Outcome (Except ScenarioFailure ScenarioOutcome)}
    (h : (run options).Runs t o) :
    ∃ image, Gated options image t ∧ t.countP Event.isExec ≤ 1 ∧
      ∀ outcome, o = .returned (.ok outcome) →
        outcome.image = image ∧ Evidenced options outcome.toPhasesOutcome t := by
  obtain ⟨phases, ending, q', teardown, cleanup, registry, rfl, hphases, hteardown, rfl⟩ :=
    exists_of_runs_run h
  obtain ⟨seen, done, node, hplan, hat⟩ := phases_acquire hphases
  obtain ⟨s, before, q, during, ending', rfl, hreached, hduring, hends, hphase⟩ :=
    phases_walk hphases
  -- one image is behind the labels of the nodes, the command and the outcome
  obtain ⟨image, hrollout, himage⟩ := s.exists_image hends
  have hfree : ∀ e ∈ teardown, Event.Free options e := by
    refine (Progress.tornDown hteardown).free (n := node) fun undo hmem => ?_
    rw [hat.registered] at hmem
    exact hplan.subset hmem
  refine ⟨image, ?_, ?_, fun outcome ho => ?_⟩
  · exact (hreached.gated_during (hreached.gated image) hrollout hduring).append_free hfree
  · have hnone : teardown.countP Event.isExec = 0 :=
      List.countP_eq_zero.mpr fun e he => by simp [(hfree e he).exec]
    rw [List.countP_append, hnone]
    exact hreached.one_exec hduring
  · have hjudged : Judged options s cleanup ending' _ := judged_conclude hends cleanup
    rw [← hphase, Outcome.returned.inj ho] at hjudged
    cases hjudged with
    | passed a outcome hlast clean =>
      cases hends with
      | passed _ outcome' hlast' =>
        obtain rfl := Sum.inr.inj (hlast'.symm.trans hlast)
        exact ⟨himage _ rfl, (hreached.evidenced hduring hlast).append teardown⟩

/-- A cluster with one node, on which the command prints something. -/
def talkingWorker : Rehearsal.Cluster :=
  { oneWorker ∅ with executor := .scripted [.returned (.ok "moo")] }

/-- Whether the event puts the layering label on a pool. -/
def optsIn : PlaneEvent → Bool
  | ⟨.call (.store .pool (.update _ desired _)), _⟩ => desired.labels.contains layeringLabel
  | _ => false

theorem labels_of_optsIn {e : PlaneEvent} (h : optsIn e = true) :
    ∃ name reply, Event.Labels .pool name layeringLabel reply e := by
  unfold optsIn at h
  split at h
  · exact ⟨_, _, .mk _ _ _ h⟩
  · cases h

/-- A run that opts the pool in, moves the node into it, runs the command there once, and passes with the
image of the build and with what the command printed. -/
theorem run_gated_rolledOut :
    ∃ t outcome,
      t = (run deletesWorker).trace replies (.start talkingWorker) ∧
      ((run deletesWorker).run replies (.start talkingWorker)).1 = .returned (.ok outcome) ∧
      outcome.image = "registry/os-image@sha256:1" ∧
      outcome.rollout = some { node := "worker-0", output := "moo" } ∧
      (∃ e ∈ t, ∃ name reply, Event.Labels .pool name layeringLabel reply e) ∧
      (∃ e ∈ t, ∃ name reply,
        Event.Labels .node name (nodeRoleLabel deletesWorker.poolName) reply e) ∧
      t.countP Event.isExec = 1 ∧ Gated deletesWorker outcome.image t ∧
      Evidenced deletesWorker outcome.toPhasesOutcome t := by
  obtain ⟨image, hgated, -, hpassed⟩ :=
    run_gated (Program.runs_trace replies (run deletesWorker) (.start talkingWorker))
  have houtcome : ∃ outcome,
      ((run deletesWorker).run replies (.start talkingWorker)).1 = .returned (.ok outcome) ∧
      outcome.image = "registry/os-image@sha256:1" ∧
      outcome.rollout = some { node := "worker-0", output := "moo" } := by
    rw [run_eq rfl]
    exact ⟨_, rfl, rfl, rfl⟩
  have hoptsIn : ((run deletesWorker).trace replies (.start talkingWorker)).any optsIn = true := by
    rw [run_eq rfl]
    rfl
  have hexec : ((run deletesWorker).trace replies (.start talkingWorker)).countP Event.isExec = 1 := by
    rw [run_eq rfl]
    rfl
  obtain ⟨outcome, hruns, himage, hrollout⟩ := houtcome
  obtain ⟨rfl, hevidenced⟩ := hpassed outcome hruns
  generalize (run deletesWorker).trace replies (.start talkingWorker) = t at *
  refine ⟨t, outcome, rfl, hruns, himage, hrollout, ?_, ?_, hexec, hgated, hevidenced⟩
  · obtain ⟨e, he, h⟩ := List.any_eq_true.mp hoptsIn
    exact ⟨e, he, labels_of_optsIn h⟩
  · obtain ⟨e, he, hcommand⟩ := List.countP_pos_iff.mp (hexec ▸ Nat.one_pos)
    exact hgated.exists_labels_of_isExec he hcommand

end Scenario

end BuildTrial
