import BuildTrial.Proofs.Scenario.Evidence

/-!
# What a stage of a run knows

Whoever gets to a stage has passed those before it, and so it is known what they have seen: beyond
provisioning, everything that a build depends on was created and the pool has its rendered configuration
(`Reached.provisioned`); in the rollout, the build was seen to succeed with the image that is rolled out
(`Reached.completed`).
-/

namespace BuildTrial

open Phased

variable {options : ScenarioOptions}

/-- The fixtures that a build depends on. -/
def Scenario.fixtures (options : ScenarioOptions) : List (Kind × String) :=
  [(.imageRepository, imageRepositoryName), (.secret, pullSecretCloneName),
    (.configMap, BuildConfiguration.mapName), (.pool, options.poolName),
    (.configMap, Dockerfiles.mapName)]

/-- Everything that a build depends on was created, and the pool has its rendered configuration. -/
structure Provisioned (options : ScenarioOptions) (t : PlaneTrace) : Prop where
  created : ∀ fixture ∈ Scenario.fixtures options, ∃ e ∈ t, Event.created? e = some fixture
  rendered : Phases.Rendered options.poolName t

/-- The wait for the build is over, right after a read that showed a pool whose build succeeded with
this image. -/
def Completed (options : ScenarioOptions) (image : String) (t : PlaneTrace) : Prop :=
  ∃ ctx before q during q' v, t = before ++ during ∧
    Reached options (.buildCompletion ctx) before q ∧
    (track (Phases.buildCompletion ctx).run q).Runs during (.returned (.returned (.ok image), q')) ∧
    ShownLast .pool options.poolName v during ∧
    v.object.state = .succeeded ∧ v.object.image = some image

theorem Provisioned.append {t : PlaneTrace} (h : Provisioned options t) (u : PlaneTrace) :
    Provisioned options (t ++ u) := by
  obtain ⟨hcreated, v, hmem, hrendered⟩ := h
  refine ⟨fun fixture hfixture => ?_, v, List.mem_append_left u hmem, hrendered⟩
  obtain ⟨e, hmem, he⟩ := hcreated fixture hfixture
  exact ⟨e, List.mem_append_left u hmem, he⟩

/-! ## What was registered -/

namespace Stage

/-- The scenario that is run. -/
def scenario : Stage → ScenarioOptions
  | .validate options => options
  | .provision ctx | .optIn ctx | .buildStart ctx | .buildCompletion ctx | .rollout ctx _ _ =>
    ctx.options

/-- What the stages before this one registered. -/
def registered (options : ScenarioOptions) : Stage → List Undo
  | .validate _ | .provision _ => []
  | .optIn _ => Scenario.provisioned options
  | .buildStart _ | .buildCompletion _ | .rollout .. => Scenario.optedIn options

end Stage

theorem Scenario.leads_opening :
    Leads (At options false [] []) (Phases.opening options)
      (fun ctx t q => ctx.options = options ∧ At options false [] [] t q) fun _ _ _ => True := by
  cases hvalid : options.validate with
  | error e =>
    rw [Phases.opening_of_invalid hvalid]
    exact leads_throw fun _ _ _ => trivial
  | ok _ =>
    rw [Phases.opening_of_valid hvalid]
    refine leads_bind (m := fun _ => At options false [] []) (leads_now ?_) fun started => ?_
    · intro t q h instant
      refine h.idle (List.forall_mem_singleton.mpr ?_)
      exact .silent (fun _ => rfl) rfl rfl rfl
    generalize started.after? (.ofSecs options.timeouts.scenario) = deadline?
    cases deadline? with
    | none => exact leads_throw fun _ _ _ => trivial
    | some deadline => exact leads_pure fun _ _ h => ⟨rfl, h⟩

/-- A stage that is passed hands on its options, and has registered what the next one counts on. -/
theorem Stage.leads_registered {s : Stage} (hs : s.scenario = options) :
    Leads (Scenario.At options false (s.registered options) (s.registered options)) s.program
      (fun a t q => ∀ s', s.next a = .inl s' → s'.scenario = options ∧
        Scenario.At options false (s'.registered options) (s'.registered options) t q)
      fun _ _ _ => True := by
  cases s with
  | validate options' =>
    obtain rfl : options' = options := hs
    refine Scenario.leads_opening.weaken (fun _ _ h => h) ?_ fun _ _ _ h => h
    rintro ctx t q ⟨hctx, hat⟩ _ ⟨⟩
    exact ⟨hctx, hat⟩
  | provision ctx =>
    refine (Scenario.leads_provision hs).weaken (fun _ _ h => h) ?_ fun _ _ _ _ => trivial
    rintro _ t q hat _ ⟨⟩
    exact ⟨hs, hat⟩
  | optIn ctx =>
    refine (Scenario.leads_optIn hs).weaken (fun _ _ h => h) ?_ fun _ _ _ _ => trivial
    rintro _ t q hat _ ⟨⟩
    exact ⟨hs, hat⟩
  | buildStart ctx =>
    refine Scenario.leads_buildStart.weaken (fun _ _ h => h) ?_ fun _ _ _ _ => trivial
    rintro _ t q hat _ ⟨⟩
    exact ⟨hs, hat⟩
  | buildCompletion ctx =>
    refine Scenario.leads_buildCompletion.weaken (fun _ _ h => h) ?_ fun _ _ _ _ => trivial
    intro image t q hat s' hnext
    simp only [Stage.next] at hnext
    split at hnext
    · cases hnext
      exact ⟨hs, hat⟩
    · cases hnext
  | rollout ctx image rolloutOptions =>
    refine leads_any.weaken (fun _ _ h => h) ?_ fun _ _ _ h => h
    -- no stage comes after the rollout
    rintro _ t q - _ ⟨⟩

namespace Reached

variable {s : Stage} {t : PlaneTrace} {q : Progress}

theorem registered (h : Reached options s t q) : s.scenario = options ∧
    Scenario.At options false (s.registered options) (s.registered options) t q := by
  induction h with
  | start => exact ⟨rfl, .start⟩
  | step before passed next ih =>
    obtain ⟨hs, hat⟩ := ih
    obtain ⟨hs', hat'⟩ := Stage.leads_registered hs _ _ hat _ _ _ passed _ next
    -- entering the next stage changes the phase only
    exact ⟨hs', hat'.registered, hat'.acquired, hat'.seen, hat'.undeleted, hat'.owned⟩

theorem rendered (h : Reached options s t q) (hs : s.registered options ≠ []) :
    Phases.Rendered options.poolName t := by
  induction h with
  | start => exact absurd rfl hs
  | @step s s' t u q q' a before passed next ih =>
    -- provisioning is what sees the pool rendered, and later stages only add to the trace
    have hkeep : Phases.Rendered options.poolName t →
        Phases.Rendered options.poolName (t ++ u) := by
      rintro ⟨v, hmem, hrendered⟩
      exact ⟨v, List.mem_append_left u hmem, hrendered⟩
    cases s with
    | validate _ =>
      cases next
      exact absurd rfl hs
    | provision ctx =>
      obtain ⟨v, hmem, hrendered⟩ := Phases.leads_provision_rendered.alone passed
      have hctx : ctx.options = options := before.registered.1
      rw [hctx] at hmem hrendered
      exact ⟨v, List.mem_append_right t hmem, hrendered⟩
    | optIn _ => exact hkeep (ih (by simp [Stage.registered, Scenario.provisioned]))
    | buildStart _ =>
      exact hkeep (ih (by simp [Stage.registered, Scenario.optedIn, Scenario.provisioned]))
    | buildCompletion _ =>
      exact hkeep (ih (by simp [Stage.registered, Scenario.optedIn, Scenario.provisioned]))
    | rollout _ _ _ => cases next

/-- Whoever gets beyond provisioning has everything provisioned. -/
theorem provisioned (h : Reached options s t q) (hs : s.registered options ≠ []) :
    Provisioned options t := by
  refine ⟨fun ⟨kind, name⟩ hmem => ?_, h.rendered hs⟩
  obtain ⟨-, hat⟩ := h.registered
  refine hat.created ?_
  have hprovisioned : .delete kind name ∈ Scenario.provisioned options := by
    simp only [Scenario.fixtures, List.mem_cons, Prod.mk.injEq, List.not_mem_nil, or_false] at hmem
    simp only [Scenario.provisioned, List.mem_cons, Undo.delete.injEq, List.not_mem_nil, or_false]
    exact hmem
  cases s with
  | validate _ => exact absurd rfl hs
  | provision _ => exact absurd rfl hs
  | optIn _ => exact hprovisioned
  | _ => exact List.mem_append_left _ hprovisioned

theorem completes {ctx : ScenarioContext} {during : PlaneTrace} {q' : Progress} {image : String}
    (h : Reached options (.buildCompletion ctx) t q)
    (hr : (track (Phases.buildCompletion ctx).run q).Runs during
      (.returned (.returned (.ok image), q'))) :
    Completed options image (t ++ during) := by
  have hctx : ctx.options = options := h.registered.1
  obtain ⟨v, hshown, hstate, himage⟩ := Phases.leads_buildCompletion_shown.alone hr
  rw [hctx] at hshown
  exact ⟨ctx, t, q, during, q', v, rfl, h, hr, hshown, hstate, himage⟩

/-- Whoever gets to the rollout has seen the build completed, with the image that is rolled out. -/
theorem completed {ctx : ScenarioContext} {image : String} {rolloutOptions : RolloutOptions}
    (h : Reached options (.rollout ctx image rolloutOptions) t q) :
    options.rollout = some rolloutOptions ∧ Completed options image t := by
  have hctx : ctx.options = options := h.registered.1
  cases h with
  | @step s _ t u q q' a before passed next =>
    cases s with
    | buildCompletion _ =>
      simp only [Stage.next] at next
      split at next
      · rename_i hrollout
        cases next
        exact ⟨hctx ▸ hrollout, before.completes passed⟩
      · cases next
    | _ => cases next

end Reached

end BuildTrial
