import BuildTrial.Proofs.Cleanup.Accounts
import BuildTrial.Proofs.Scenario.Budget
import BuildTrial.Proofs.Scenario.Gating
import BuildTrial.Proofs.Scenario.Made
import BuildTrial.Proofs.Wait.Polls

/-!
# What a run creates, and how it cannot fail

All that a run creates it makes of what was shown to it (`Contents`). On the way it looks twice into a
snapshot for what a wait has accepted it for, and has an error ready in case it is not there. `Stops` says
of every early end that this is not what happened: a wait hands on the snapshot that it has judged, and
not a later one. `run_contents` says both of whole runs.
-/

namespace BuildTrial

variable {options : ScenarioOptions}

/-! ## Where a run stops -/

/-- The errors that the phases keep for an accepted snapshot that lacks what it was accepted for. -/
inductive Error.IsDefensive : Error → Prop where
  | unresolved (context : String) :
      IsDefensive (.internal context "resolved repository has no pullspec")
  | unpublished (context : String) :
      IsDefensive (.internal context "build succeeded without an image")

/-- A panic is told from them by its message. -/
theorem Error.not_isDefensive_ofPanic (context : String) (payload : Panic) :
    ¬(Error.ofPanic context payload).IsDefensive := by
  have hne : ∀ message : String, message.toList.head? ≠ some 'P' →
      "PANIC: " ++ payload.message ≠ message := by
    rintro _ hhead rfl
    simp at hhead
  intro h
  generalize he : Error.ofPanic context payload = e at h
  cases h with
  | unresolved _ => exact hne _ (by decide) (Error.internal.inj he).2
  | unpublished _ => exact hne _ (by decide) (Error.internal.inj he).2

/-- A call on the control plane came back with the error. -/
def CameBack (t : PlaneTrace) (e : Error) : Prop :=
  ∃ call, (⟨.call call, .returned (.error e)⟩ : PlaneEvent) ∈ t

/-- Where the phases may stop: all that was created is as it should be, and a defensive error is none of
their own. -/
def Stops (options : ScenarioOptions) : Outcome Error → Phased.Assertion
  | .returned e, t, _ => Contents options t ∧ (e.IsDefensive → CameBack t e)
  | .panicked _, t, _ => Contents options t

theorem cameBack_onPlane {kind : Kind} {t : PlaneTrace} {s : StoreTrace kind.Model} {e : Error}
    (h : ∃ call, (⟨.call call, .returned (.error e)⟩ : StoreEvent kind.Model) ∈ s) :
    CameBack (t ++ s.map (Event.onPlane kind)) e := by
  obtain ⟨call, hmem⟩ := h
  exact ⟨.store kind call, List.mem_append_right t (List.mem_map_of_mem hmem)⟩

theorem isCreation_of_mutate {k : Kind} {name : String} {config : RetryConfig}
    {mutation : k.Model → Outcome k.Model} {s : StoreTrace k.Model}
    {o : Outcome (Except Error (Versioned k.Model))}
    (h : (mutate name config mutation).Runs s o) :
    ∀ e ∈ s.map (Event.onPlane k), Event.isCreation e = false :=
  List.forall_mem_map.mpr (asks_mutate (P := fun e => (e.onPlane k).isCreation = false)
    (fun _ => rfl) (fun _ _ _ _ _ => rfl) (fun _ => rfl) (fun _ => rfl) s o h)

namespace Phases

open Phased

variable {ctx : ScenarioContext} {kind : Kind} {K : PlaneTrace → Prop}

theorem leads_throw_stops {α : Type} {post : α → Assertion} {e : Error} (he : ¬e.IsDefensive)
    (hcontents : ∀ t, K t → Contents options t) :
    Leads (fun t _ => K t) (throw e : Phased α) post (Stops options) :=
  leads_throw fun t _ h => ⟨hcontents t h, fun hdefensive => absurd hdefensive he⟩

theorem leads_call_stops {call : PlaneCall} {post : call.Answer → PlaneTrace → Prop}
    (hcontents : ∀ t, K t → Contents options t)
    (hmade : ∀ t, K t → ∀ reply, Event.Made options t ⟨.call call, reply⟩)
    (hpost : ∀ t a, K t → Contents options (t ++ [⟨.call call, .returned (.ok a)⟩]) →
      post a (t ++ [⟨.call call, .returned (.ok a)⟩])) :
    Leads (fun t _ => K t) (Phased.call call) (fun a t _ => post a t) (Stops options) := by
  refine leads_call ?_
  intro t q h reply
  have hend : Contents options (t ++ [⟨.call call, reply⟩]) :=
    Program.Throughout.concat (hcontents t h) (hmade t h reply)
  rcases reply with (e | a) | payload
  · exact ⟨hend, fun _ => ⟨call, by simp⟩⟩
  · exact hpost t a h hend
  · exact hend

theorem leads_create_stops {object : kind.Model} {L : PlaneTrace → Prop}
    (hcontents : ∀ t, K t → Contents options t)
    (hmade : ∀ t, K t → ∀ reply,
      Event.Made options t ⟨.call (.store kind (.create object)), reply⟩)
    (hpost : ∀ t reply, K t →
      Contents options (t ++ [⟨.call (.store kind (.create object)), reply⟩]) →
        L (t ++ [⟨.call (.store kind (.create object)), reply⟩])) :
    Leads (fun t _ => K t) (create kind object) (fun _ t _ => L t) (Stops options) :=
  leads_bind (leads_call_stops hcontents hmade fun t _ => hpost t _) fun _ =>
    leads_register fun _ _ h => h

theorem leads_waitOn_stops {name description : String} {budget : Nat}
    {predicate : kind.Model → Verdict} {L : PlaneTrace → Prop}
    (hcontents : ∀ t, K t → Contents options t)
    (hpost : ∀ t u, K t → Contents options (t ++ u) → (∀ e ∈ u, Event.Polls kind name e) →
      L (t ++ u)) :
    Leads (fun t _ => K t) (ctx.waitOn kind name description budget predicate)
      (fun v t _ => L t ∧ ShownLast kind name v t ∧ predicate v.object = .satisfied)
      (Stops options) := by
  refine leads_bind (m := fun now t _ => ∃ t₀, K t₀ ∧ t = t₀ ++ [⟨.now, now⟩])
    (leads_now fun t _ h _ => ⟨t, h, rfl⟩) fun now => leads_onStore ?_
  rintro _ q ⟨t, h, rfl⟩ s o hs
  have hpolls : ∀ e ∈ (⟨.now, now⟩ : PlaneEvent) :: s.map (Event.onPlane kind),
      Event.Polls kind name e :=
    List.forall_mem_cons.mpr ⟨.now now, List.forall_mem_map.mpr fun e he =>
      (waitFor_polls hs e he).onPlane⟩
  have hend : Contents options (t ++ [⟨.now, now⟩] ++ s.map (Event.onPlane kind)) := by
    rw [List.append_assoc]
    exact (hcontents t h).append fun e he => (hpolls e he).isCreation_eq
  rcases o with (e | v) | payload
  · refine ⟨hend, fun hdefensive => ?_⟩
    rcases (waitFor_ended hs).of_error with hcame | ⟨reason, rfl⟩ | ⟨waited, rfl⟩
    · exact cameBack_onPlane hcame
    · cases hdefensive
    · cases hdefensive
  · obtain ⟨hsatisfied, s, rfl⟩ := waitFor_satisfied hs
    refine ⟨?_, ?_, hsatisfied⟩
    · rw [List.append_assoc] at hend ⊢
      exact hpost t _ h hend hpolls
    · rw [ShownLast, List.map_append, ← List.append_assoc]
      exact List.getLast?_concat
  · exact hend

/-- What is no creation can be asked at any time. -/
theorem leads_ask_stops {call : PlaneCall} (h : ∀ reply, Event.isCreation ⟨.call call, reply⟩ = false) :
    Leads (fun t _ => Contents options t) (Phased.call call) (fun _ t _ => Contents options t)
      (Stops options) :=
  leads_call_stops (fun _ hcontents => hcontents) (fun _ _ reply => .nothing _ (h reply))
    fun _ _ _ hcontents => hcontents

theorem leads_await_stops {name description : String} {budget : Nat}
    {predicate : kind.Model → Verdict} :
    Leads (fun t _ => Contents options t) (ctx.waitOn kind name description budget predicate)
      (fun v t _ => Contents options t ∧ predicate v.object = .satisfied) (Stops options) :=
  (leads_waitOn_stops (L := Contents options) (fun _ h => h) fun _ _ _ h _ => h).weaken
    (fun _ _ h => h) (fun _ _ _ h => ⟨h.1, h.2.2⟩) fun _ _ _ h => h

theorem leads_label_stops [Labelled kind.Model] {name key : String} :
    Leads (fun t _ => Contents options t) (label kind name key) (fun _ t _ => Contents options t)
      (Stops options) := by
  refine leads_bind (m := fun _ t _ => Contents options t) (leads_onStore ?_)
    fun _ => leads_pure fun _ _ h => h
  intro t q h s o hs
  have hend : Contents options (t ++ s.map (Event.onPlane kind)) := h.append (isCreation_of_mutate hs)
  rcases o with (e | v) | payload
  · refine ⟨hend, fun hdefensive => ?_⟩
    rcases Mutate.cycleFrom_failed hs with hcame | ⟨attempts, rfl⟩
    · exact cameBack_onPlane hcame
    · cases hdefensive
  · exact hend
  · exact hend

/-! ## Provisioning -/

/-- What provisioning knows at some point: what it has seen of the secrets, and that all so far was
created from what was shown. -/
structure Seen (options : ScenarioOptions) (listed : List (List (Versioned Secret)))
    (pulled : List Secret) (t : PlaneTrace) : Prop where
  contents : Contents options t
  listed : t.filterMap Event.listed? = listed
  pulled : t.filterMap Event.pulled? = pulled

/-- The first secret to push with has this name, as the only listing showed. -/
def PushesWith (name : String) (listed : List (List (Versioned Secret))) : Prop :=
  ∃ secrets push, listed = [secrets] ∧ push.object.name = name ∧
    secrets.find? (fun secret => Text.startsWith secret.object.name pushSecretStart) = some push

/-- The last read of the image repository showed it with a reference, to which this one belongs. -/
def ResolvedTo (pullspec : String) (t : PlaneTrace) : Prop :=
  ∃ repository, (t.filterMap Event.shownRepository?).getLast? = some repository ∧
    repository.pullspec? = some pullspec

theorem Seen.append {listed : List (List (Versioned Secret))} {pulled : List Secret}
    {t u : PlaneTrace} (h : Seen options listed pulled t) (hcontents : Contents options (t ++ u))
    (hu : ∀ e ∈ u, Event.listed? e = none ∧ Event.pulled? e = none) :
    Seen options listed pulled (t ++ u) := by
  refine ⟨hcontents, ?_, ?_⟩
  · rw [List.filterMap_append, h.listed, List.filterMap_eq_nil_iff.mpr fun e he => (hu e he).1,
      List.append_nil]
  · rw [List.filterMap_append, h.pulled, List.filterMap_eq_nil_iff.mpr fun e he => (hu e he).2,
      List.append_nil]

theorem Seen.create {listed : List (List (Versioned Secret))} {pulled : List Secret} {t : PlaneTrace}
    {object : kind.Model} {reply : Attempted (Versioned kind.Model)}
    (h : Seen options listed pulled t)
    (hcontents : Contents options (t ++ [⟨.call (.store kind (.create object)), reply⟩])) :
    Seen options listed pulled (t ++ [⟨.call (.store kind (.create object)), reply⟩]) := by
  refine h.append hcontents (List.forall_mem_singleton.mpr ?_)
  cases kind <;> exact ⟨rfl, rfl⟩

theorem ResolvedTo.of_shown {name pullspec : String} {repository : Versioned ImageRepository}
    {t : PlaneTrace} (h : ShownLast .imageRepository name repository t)
    (hpullspec : repository.object.pullspec? = some pullspec) : ResolvedTo pullspec t := by
  obtain ⟨s, rfl⟩ := List.getLast?_eq_some_iff.mp h
  refine ⟨repository.object, ?_, hpullspec⟩
  rw [List.filterMap_append]
  exact List.getLast?_concat

theorem ResolvedTo.concat {pullspec : String} {t : PlaneTrace} {e : PlaneEvent}
    (h : ResolvedTo pullspec t) (he : e.shownRepository? = none) : ResolvedTo pullspec (t ++ [e]) := by
  obtain ⟨repository, hlast, hpullspec⟩ := h
  refine ⟨repository, ?_, hpullspec⟩
  rw [List.filterMap_append, List.filterMap_cons_none he, List.filterMap_nil,
    List.append_nil]
  exact hlast

theorem leads_findPushSecret_stops :
    Leads (fun t _ => Seen options [] [] t) findPushSecret
      (fun name t _ => ∃ listed, Seen options listed [] t ∧ PushesWith name listed)
      (Stops options) := by
  refine leads_bind (m := fun secrets t _ => Seen options [secrets] [] t)
    (leads_call_stops (fun _ h => h.contents) (fun _ _ _ => .nothing _ rfl) ?_) fun secrets => ?_
  · intro t secrets h hcontents
    refine ⟨hcontents, ?_, ?_⟩
    · rw [List.filterMap_append, h.listed]
      rfl
    · rw [List.filterMap_append, h.pulled]
      rfl
  · split
    · rename_i push hfirst
      exact leads_pure fun t _ h => ⟨[secrets], h, secrets, push, rfl, rfl, hfirst⟩
    · exact leads_throw_stops nofun fun _ h => h.contents

/-- With a secret to push with, a pull secret and a resolved repository there is a build
configuration, and its map is made of them. -/
theorem made_configuration {name pullspec : String} {t : PlaneTrace}
    {listed : List (List (Versioned Secret))} {pulled : List Secret}
    (h : Seen options listed pulled t) (hpush : PushesWith name listed)
    (hresolved : ResolvedTo pullspec t) (reply : Attempted (Versioned ConfigMap)) :
    Event.Made options t ⟨.call (.store .configMap (.create
      { builderType := options.builderType, basePullSecret := pullSecretCloneName
        finalPushSecret := name, finalPullspec := pullspec : BuildConfiguration }.toConfigMap)),
      reply⟩ := by
  obtain ⟨secrets, push, rfl, rfl, hfirst⟩ := hpush
  obtain ⟨repository, hshown, hpullspec⟩ := hresolved
  obtain ⟨reference, hreference, hne, rfl⟩ := ImageRepository.pullspec?_eq_some hpullspec
  have hname : push.object.name ≠ "" := by
    intro hempty
    have hstarts := List.find?_some hfirst
    rw [hempty] at hstarts
    revert hstarts
    decide
  have htagged : reference ++ ":latest" ≠ "" := by
    intro hempty
    have hchars := congrArg String.toList hempty
    simp at hchars
  have hclone : pullSecretCloneName ≠ "" := by decide
  exact .configuration _ rfl secrets h.listed push hfirst repository hshown reference hreference hne
    (BuildConfiguration.ofConfigMap_toConfigMap hclone hname htagged) reply

theorem leads_pullSecret_stops {listed : List (List (Versioned Secret))} {pullspec : String} :
    Leads (fun t _ => Seen options listed [] t ∧ ResolvedTo pullspec t) (Phased.call .pullSecret)
      (fun pull t _ => Seen options listed [pull] t ∧ ResolvedTo pullspec t) (Stops options) := by
  refine leads_call_stops (fun _ h => h.1.contents) (fun _ _ _ => .nothing _ rfl) ?_
  rintro t pull ⟨h, hresolved⟩ hcontents
  refine ⟨⟨hcontents, ?_, ?_⟩, hresolved.concat rfl⟩
  · rw [List.filterMap_append, h.listed]
    exact List.append_nil listed
  · rw [List.filterMap_append, h.pulled]
    rfl

theorem leads_provision_stops :
    Leads (fun t _ => Seen ctx.options [] [] t) (provision ctx)
      (fun _ t _ => Contents ctx.options t) (Stops ctx.options) := by
  refine leads_bind leads_findPushSecret_stops fun finalPushSecret => ?_
  refine leads_of_exists fun listed => leads_of_and fun hpush => ?_
  refine leads_bind (leads_create_stops (L := Seen ctx.options listed [])
    (fun _ h => h.contents) (fun _ _ reply => .repository reply) fun _ _ h => h.create) fun _ => ?_
  refine leads_bind (leads_waitOn_stops (L := Seen ctx.options listed []) (fun _ h => h.contents)
    fun t u h hcontents hpolls => h.append hcontents fun e he => (hpolls e he).aside)
    fun repository => ?_
  dsimp only
  split
  case h_2 hnone =>
    -- the wait has accepted a repository with a pullspec
    rw [throw_bind]
    refine leads_throw fun t q h => ?_
    have hsatisfied := h.2.2
    simp [Predicates.imageRepositoryResolved, hnone] at hsatisfied
  case h_1 pullspec hpullspec =>
    rw [pure_bind]
    refine leads_bind (leads_pullSecret_stops.weaken (fun t _ h => ⟨h.1, .of_shown h.2.1 hpullspec⟩)
      (fun _ _ _ h => h) fun _ _ _ h => h) fun pull => ?_
    refine leads_bind (leads_create_stops
      (L := fun t => Seen ctx.options listed [pull] t ∧ ResolvedTo pullspec t)
      (fun _ h => h.1.contents) (fun _ h reply => .pullSecret pull h.1.pulled reply)
      fun _ _ h hcontents => ⟨h.1.create hcontents, h.2.concat rfl⟩) fun _ => ?_
    refine leads_bind (leads_create_stops (L := Contents ctx.options) (fun _ h => h.1.contents)
      (fun _ h reply => made_configuration h.1 hpush h.2 reply) fun _ _ _ h => h) fun _ => ?_
    refine leads_bind (leads_create_stops (L := Contents ctx.options) (fun _ h => h)
      (fun _ _ reply => .pool reply) fun _ _ _ h => h) fun _ => ?_
    refine leads_bind leads_await_stops fun _ => ?_
    exact leads_create_stops (fun _ h => h.1) (fun _ _ reply => .dockerfiles reply) fun _ _ _ h => h

/-! ## The other phases -/

/-- Before anything is created, nothing is asked but the time. -/
theorem leads_opening_stops :
    Leads (fun t _ => t = []) (opening options)
      (fun ctx t _ => Seen options [] [] t ∧ ctx.options = options) (Stops options) := by
  have hstart : ∀ t, t = [] → Contents options t := by
    rintro _ rfl
    exact .nil
  cases hvalid : options.validate with
  | error e =>
    obtain ⟨field, message, rfl⟩ := ScenarioOptions.invalid_of_validate hvalid
    rw [opening_of_invalid hvalid]
    exact leads_throw_stops nofun hstart
  | ok _ =>
    rw [opening_of_valid hvalid]
    refine leads_bind (m := fun _ t _ => Seen options [] [] t) (leads_now ?_) fun started => ?_
    · rintro _ q rfl instant
      exact ⟨Program.Throughout.concat .nil (.nothing _ rfl), rfl, rfl⟩
    generalize started.after? (.ofSecs options.timeouts.scenario) = deadline?
    cases deadline? with
    | none => exact leads_throw_stops nofun fun _ h => h.contents
    | some deadline => exact leads_pure fun _ _ h => ⟨h, rfl⟩

theorem leads_optIn_stops :
    Leads (fun t _ => Contents options t) (optIn ctx) (fun _ t _ => Contents options t)
      (Stops options) :=
  leads_bind leads_label_stops fun _ => leads_register fun _ _ h => h

theorem leads_buildStart_stops :
    Leads (fun t _ => Contents options t) (buildStart ctx) (fun _ t _ => Contents options t)
      (Stops options) :=
  leads_bind leads_await_stops fun _ => leads_pure fun _ _ h => h.1

theorem leads_buildCompletion_stops :
    Leads (fun t _ => Contents options t) (buildCompletion ctx) (fun _ t _ => Contents options t)
      (Stops options) := by
  refine leads_bind leads_await_stops fun built => ?_
  split
  · exact leads_pure fun _ _ h => h.1
  · -- the wait has accepted a pool with an image
    rename_i hnone
    refine leads_throw fun t q h => ?_
    have himage := (Predicates.image_of_buildCompleted h.2).2
    rw [hnone] at himage
    cases himage

theorem leads_selectNode_stops {rolloutOptions : RolloutOptions} :
    Leads (fun t _ => Contents options t) (selectNode ctx rolloutOptions)
      (fun _ t _ => Contents options t) (Stops options) := by
  refine leads_selectNode (fun _ t _ => Contents options t)
    (fun _ _ => leads_ask_stops fun _ => rfl) (leads_ask_stops fun _ => rfl) ?_ ?_
  · exact fun _ _ _ h => ⟨h, nofun⟩
  · exact fun _ _ _ h _ _ _ _ => Program.Throughout.concat h (.nothing _ rfl)

theorem leads_rollout_stops {image : String} {rolloutOptions : RolloutOptions} :
    Leads (fun t _ => Contents options t) (rollout ctx image rolloutOptions)
      (fun _ t _ => Contents options t) (Stops options) := by
  have hregister : ∀ {undo}, Leads (fun t _ => Contents options t) (Phased.register undo)
      (fun _ t _ => Contents options t) (Stops options) := leads_register fun _ _ h => h
  rw [rollout_eq]
  refine leads_bind (m := fun _ t _ => Contents options t) (leads_moveIn _ leads_selectNode_stops
    (fun _ _ => hregister) (fun _ _ _ _ h => h) fun node => ?_) fun node => ?_
  · refine leads_bind leads_label_stops fun _ => leads_bind hregister fun _ => ?_
    exact leads_bind leads_await_stops fun _ => leads_pure fun _ _ h => h.1
  · exact leads_bind (leads_ask_stops fun _ => rfl) fun _ => leads_pure fun _ _ h => h

theorem leads_afterOpening_stops {ctx : ScenarioContext} :
    Leads (fun t _ => Seen ctx.options [] [] t) (afterOpening ctx)
      (fun _ t _ => Contents ctx.options t) (Stops ctx.options) := by
  have henter : ∀ {phase}, Leads (fun t _ => Contents ctx.options t) (Phased.enter phase)
      (fun _ t _ => Contents ctx.options t) (Stops ctx.options) := leads_enter fun _ _ h => h
  refine leads_bind (m := fun _ t _ => Seen ctx.options [] [] t) (leads_enter fun _ _ h => h)
    fun _ => ?_
  refine leads_bind leads_provision_stops fun _ => leads_bind henter fun _ => ?_
  refine leads_bind leads_optIn_stops fun _ => leads_bind henter fun _ => ?_
  refine leads_bind leads_buildStart_stops fun _ => leads_bind henter fun _ => ?_
  refine leads_bind leads_buildCompletion_stops fun image => ?_
  split
  · refine leads_bind henter fun _ => leads_bind leads_rollout_stops fun _ => ?_
    exact leads_pure fun _ _ h => h
  · exact leads_pure fun _ _ h => h

theorem leads_all_stops :
    Leads (fun t _ => t = []) (Phases.all options) (fun _ t _ => Contents options t)
      (Stops options) := by
  rw [all_eq]
  refine leads_bind leads_opening_stops fun ctx => leads_of_and ?_
  rintro rfl
  exact leads_afterOpening_stops

end Phases

/-! ## The whole run -/

theorem Undo.Performed.isCreation_eq {undo : Undo} {t : PlaneTrace} (h : Performed undo t) :
    ∀ e ∈ t, Event.isCreation e = false := by
  cases h with
  | delete kind name reply => exact List.forall_mem_singleton.mpr rfl
  | unlabelPool hs => exact isCreation_of_mutate (k := .pool) hs
  | unlabelNode hs => exact isCreation_of_mutate (k := .node) hs
  | nodeOnly name machine reply _ => exact List.forall_mem_singleton.mpr rfl
  | nodeAndMachine name machine reply reply' _ =>
    exact List.forall_mem_cons.mpr ⟨rfl, List.forall_mem_singleton.mpr rfl⟩

theorem TornDown.isCreation_eq {undos : List Undo} {skip : Bool} {t : PlaneTrace}
    {cleanup : CleanupReport} (h : TornDown undos skip t cleanup) :
    ∀ e ∈ t, Event.isCreation e = false := by
  intro e he
  obtain ⟨undo, -, attempt, hundo, he⟩ := h.exists_performed he
  exact hundo.isCreation_eq e he

namespace Scenario

/-- Whatever the control plane shows, and however that changes from one read to the next, all that a run
creates is made of what it was shown, as `Event.Made` says. And unless a call comes back with one of
them, no run ends with an error that the phases keep for a snapshot that lacks what it was accepted
for. -/
theorem run_contents {t : PlaneTrace} {o : Outcome (Except ScenarioFailure ScenarioOutcome)}
    (h : (run options).Runs t o) :
    Contents options t ∧
      ((∀ call e, (⟨.call call, .returned (.error e)⟩ : PlaneEvent) ∈ t → ¬e.IsDefensive) →
        ∀ failure, o = .returned (.error failure) → ¬failure.source.IsDefensive) := by
  obtain ⟨phases, ending, q, teardown, cleanup, registry, rfl, hphases, hteardown, rfl⟩ :=
    exists_of_runs_run h
  have hend := Phases.leads_all_stops [] {} rfl phases ending q hphases
  have hquiet : ∀ e ∈ teardown, Event.isCreation e = false :=
    (Progress.tornDown hteardown).isCreation_eq
  rcases ending with (e | outcome) | payload
  · obtain ⟨hcontents, hcame⟩ := hend
    refine ⟨Contents.append hcontents hquiet, fun hplane failure ho hdefensive => ?_⟩
    cases ho
    obtain ⟨call, hmem⟩ := hcame hdefensive
    exact hplane call e (List.mem_append_left teardown hmem) hdefensive
  · refine ⟨Contents.append hend hquiet, fun _ failure ho hdefensive => ?_⟩
    -- only the teardown can fail a run whose phases passed
    cases hcleanup : cleanup.toError? with
    | none => simp [phasesResult, conclude, hcleanup] at ho
    | some source =>
      obtain ⟨-, rfl⟩ := CleanupReport.toError?_eq_some_iff.mp hcleanup
      simp only [phasesResult, conclude, hcleanup, Outcome.returned.injEq, Except.error.injEq] at ho
      rw [← ho] at hdefensive
      cases hdefensive
  · refine ⟨Contents.append hend hquiet, fun _ failure ho hdefensive => ?_⟩
    cases ho
    exact Error.not_isDefensive_ofPanic _ payload hdefensive

/-- A cluster with a secret to push with, which assigns a reference to the image repository. -/
def resolvingCluster : Rehearsal.Cluster where
  secrets := { memory := .ofList [{ name := "builder-dockercfg-x" }] }
  imageRepositories :=
    { memory := { reconciler := some (Rehearsal.reconciler .imageRepository
        [{ script := [[.repository (some "registry/os-image")]], repeatLast := true }]) } }
  pullSecret := .returned (.ok { name := "pull-secret", type := "opaque" })
  executor := .scripted []

theorem run_contents_resolved :
    ∃ (scenario : ScenarioOptions) (t : PlaneTrace),
      scenario = { name := "demo", builderType := .customPodBuilder } ∧
      t = (run scenario).trace (World.reply (I := planeInterface) Rehearsal.Cluster.serve)
        (.start resolvingCluster) ∧
      Contents scenario t ∧
      ((∀ call e, (⟨.call call, .returned (.error e)⟩ : PlaneEvent) ∈ t → ¬e.IsDefensive) →
        ∀ failure, ((run scenario).run (World.reply (I := planeInterface) Rehearsal.Cluster.serve)
          (.start resolvingCluster)).1 = .returned (.error failure) → ¬failure.source.IsDefensive) :=
  ⟨_, _, rfl, rfl, run_contents (Program.runs_trace _ _ _)⟩

end Scenario

end BuildTrial
