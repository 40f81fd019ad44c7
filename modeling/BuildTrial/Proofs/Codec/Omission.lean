import BuildTrial.Proofs.Codec.Records

/-!
# Keys that are left out

Options are read from an object in which keys may be missing and none may be unknown. Whatever keys with a
default are left out, of the options themselves, of their budgets or of their rollout, these fields have
their defaults and no other changes. Without a key that has none, or with a key that no record knows,
nothing is read (`ScenarioOptions.reads_exactly`).
-/

namespace BuildTrial

open DataForm

/-- The keys that are left out of options, of their budgets, and of their rollout. -/
structure Omission where
  scenario : List String := []
  timeouts : List String := []
  rollout : List String := []

/-! ## Back to the defaults -/

/-- The budgets when some of their keys are left out. -/
def Timeouts.reset (dropped : List String) (t : Timeouts) : Timeouts where
  imageRepository := if "imageRepositorySecs" ∈ dropped then 120 else t.imageRepository
  renderedConfig := if "renderedConfigSecs" ∈ dropped then 300 else t.renderedConfig
  buildStart := if "buildStartSecs" ∈ dropped then 300 else t.buildStart
  buildCompletion := if "buildCompletionSecs" ∈ dropped then 1200 else t.buildCompletion
  nodeImage := if "nodeImageSecs" ∈ dropped then 1200 else t.nodeImage
  scenario := if "scenarioSecs" ∈ dropped then 3600 else t.scenario
  pollInterval := if "pollIntervalSecs" ∈ dropped then 2 else t.pollInterval

/-- The options for a rollout when some of their keys are left out. The command has no default. -/
def RolloutOptions.reset (dropped : List String) (r : RolloutOptions) : RolloutOptions where
  verifyCommand := r.verifyCommand
  nodeRole := if "nodeRole" ∈ dropped then "worker" else r.nodeRole
  deleteNode := if "deleteNodeOnCleanup" ∈ dropped then true else r.deleteNode

/-- The options when some keys are left out. The name and the builder have no defaults. -/
def ScenarioOptions.reset (d : Omission) (o : ScenarioOptions) : ScenarioOptions where
  name := o.name
  builderType := o.builderType
  poolName := if "poolName" ∈ d.scenario then "layered" else o.poolName
  dockerfiles := if "dockerfileOverrides" ∈ d.scenario then ∅ else o.dockerfiles
  targetNodes := if "targetNodes" ∈ d.scenario then [] else o.targetNodes
  skipCleanup := if "skipCleanup" ∈ d.scenario then false else o.skipCleanup
  rollout := if "rollout" ∈ d.scenario then none else o.rollout.map (·.reset d.rollout)
  timeouts := if "timeouts" ∈ d.scenario then {} else o.timeouts.reset d.timeouts

section Reading

variable {V : Type} {n : DataForm V} {whole rest : V} {fields kept : List (String × V)}
  {dropped : List String} {d : Omission}

/-! ## Budgets -/

theorem Timeouts.ReadFrom.of_kept {t : Timeouts} (h : ReadFrom n fields t)
    (hkept : Kept dropped (fun _ => Eq) fields kept) : ReadFrom n kept (t.reset dropped) where
  imageRepository := hkept.withDefault_same (fun _ _ => id) h.imageRepository
  renderedConfig := hkept.withDefault_same (fun _ _ => id) h.renderedConfig
  buildStart := hkept.withDefault_same (fun _ _ => id) h.buildStart
  buildCompletion := hkept.withDefault_same (fun _ _ => id) h.buildCompletion
  nodeImage := hkept.withDefault_same (fun _ _ => id) h.nodeImage
  scenario := hkept.withDefault_same (fun _ _ => id) h.scenario
  pollInterval := hkept.withDefault_same (fun _ _ => id) h.pollInterval

theorem Timeouts.read?_of_without {t : Timeouts} (h : n.Without dropped whole rest)
    (hread : read? n whole = some t) : read? n rest = some (t.reset dropped) := by
  rcases h with ⟨rfl, rfl⟩ | hreduces
  · simpa [reset] using hread
  · obtain ⟨fields, hfields, hfrom⟩ := read?_eq_some_iff.mp hread
    obtain ⟨kept, hrest, hkept⟩ := hreduces.exists_kept hfields
    exact read?_eq_some_iff.mpr ⟨kept, hrest, hfrom.of_kept hkept⟩

/-! ## Rollouts -/

namespace RolloutOptions

theorem ReadFrom.of_kept {r : RolloutOptions} (h : ReadFrom n fields r)
    (hkept : Kept dropped (fun _ => Eq) fields kept) (hcommand : "verifyCommand" ∉ dropped) :
    ReadFrom n kept (r.reset dropped) where
  verifyCommand := (hkept.required_same hcommand fun _ _ => id).trans h.verifyCommand
  nodeRole := hkept.withDefault_same (fun _ _ => id) h.nodeRole
  deleteNode := hkept.withDefault_same (fun _ _ => id) h.deleteNode

theorem read?_of_without {r : RolloutOptions} (h : n.Without dropped whole rest)
    (hcommand : "verifyCommand" ∉ dropped) (hread : read? n whole = some r) :
    read? n rest = some (r.reset dropped) := by
  rcases h with ⟨rfl, rfl⟩ | hreduces
  · simpa [reset] using hread
  · obtain ⟨fields, hfields, hfrom⟩ := read?_eq_some_iff.mp hread
    obtain ⟨kept, hrest, hkept⟩ := hreduces.exists_kept hfields
    exact read?_eq_some_iff.mpr ⟨kept, hrest, hfrom.of_kept hkept hcommand⟩

/-- If both are read, the command was not left out. -/
theorem not_mem_of_read? {r left : RolloutOptions} (h : n.Without dropped whole rest)
    (hread : read? n whole = some r) (hleft : read? n rest = some left) :
    "verifyCommand" ∉ dropped := by
  rcases h with ⟨rfl, -⟩ | hreduces
  · exact List.not_mem_nil
  · obtain ⟨fields, hfields, -⟩ := read?_eq_some_iff.mp hread
    obtain ⟨kept, hrest, hkept⟩ := hreduces.exists_kept hfields
    obtain ⟨found, hfound, hfrom⟩ := read?_eq_some_iff.mp hleft
    obtain rfl := Option.some.inj (hrest.symm.trans hfound)
    exact hkept.not_mem_of_required hfrom.verifyCommand

end RolloutOptions

/-! ## Options -/

namespace Omission

/-- What becomes of the value under a key of the options. -/
structure Inside (d : Omission) (n : DataForm V) (key : String) (whole rest : V) : Prop where
  timeouts : key = "timeouts" → n.Without d.timeouts whole rest
  rollout : key = "rollout" →
    Option.Rel (n.Without d.rollout) (n.optional whole) (n.optional rest)
  others : key ∉ ["timeouts", "rollout"] → whole = rest

/-- What is left of options that are written as an object. -/
def Leaves (d : Omission) (n : DataForm V) (whole rest : V) : Prop :=
  n.Reduces d.scenario (d.Inside n) whole rest

/-- Only keys with a default are left out. The command of a rollout may be, together with the rollout. -/
structure Allowed (d : Omission) (o : ScenarioOptions) : Prop where
  name : "name" ∉ d.scenario
  builderType : "builderType" ∉ d.scenario
  verifyCommand : "rollout" ∉ d.scenario → o.rollout.isSome = true → "verifyCommand" ∉ d.rollout

end Omission

namespace ScenarioOptions

theorem readRollout?_of_rel {rollout : Option RolloutOptions}
    (h : Option.Rel (n.Without dropped) (n.optional whole) (n.optional rest))
    (hcommand : rollout.isSome = true → "verifyCommand" ∉ dropped)
    (hread : readRollout? n whole = some rollout) :
    readRollout? n rest = some (rollout.map (·.reset dropped)) := by
  unfold readRollout? at hread ⊢
  generalize n.optional whole = found at h hread
  generalize n.optional rest = left at h ⊢
  cases h with
  | none =>
    obtain rfl := Option.some.inj hread
    rfl
  | some hwithout =>
    obtain ⟨r, hr, rfl⟩ := Option.map_eq_some_iff.mp hread
    exact congrArg (Option.map some)
      (RolloutOptions.read?_of_without hwithout (hcommand rfl) hr)

theorem not_mem_of_readRollout? {rollout left : Option RolloutOptions}
    (h : Option.Rel (n.Without dropped) (n.optional whole) (n.optional rest))
    (hsome : rollout.isSome = true) (hread : readRollout? n whole = some rollout)
    (hleft : readRollout? n rest = some left) : "verifyCommand" ∉ dropped := by
  unfold readRollout? at hread hleft
  generalize n.optional whole = found at h hread
  generalize n.optional rest = kept at h hleft
  cases h with
  | none =>
    obtain rfl := Option.some.inj hread
    cases hsome
  | some hwithout =>
    obtain ⟨r, hr, -⟩ := Option.map_eq_some_iff.mp hread
    obtain ⟨r', hr', -⟩ := Option.map_eq_some_iff.mp hleft
    exact RolloutOptions.not_mem_of_read? hwithout hr hr'

theorem ReadFrom.of_kept {o : ScenarioOptions} (h : ReadFrom n fields o)
    (hkept : Kept d.scenario (d.Inside n) fields kept) (hallowed : d.Allowed o) :
    ReadFrom n kept (o.reset d) where
  name := (hkept.required_same hallowed.name
    fun _ _ hinside => hinside.others (by decide)).trans h.name
  builderType := (hkept.required_same hallowed.builderType
    fun _ _ hinside => hinside.others (by decide)).trans h.builderType
  poolName := hkept.withDefault_same (fun _ _ hinside => hinside.others (by decide)) h.poolName
  dockerfiles := hkept.withDefault_same (fun _ _ hinside => hinside.others (by decide)) h.dockerfiles
  targetNodes := hkept.withDefault_same (fun _ _ hinside => hinside.others (by decide)) h.targetNodes
  skipCleanup := hkept.withDefault_same (fun _ _ hinside => hinside.others (by decide)) h.skipCleanup
  rollout := hkept.withDefault (Option.map (RolloutOptions.reset d.rollout)) rfl
    (fun hkey _ _ hinside => readRollout?_of_rel (hinside.rollout rfl) (hallowed.verifyCommand hkey))
    h.rollout
  timeouts := hkept.withDefault (Timeouts.reset d.timeouts) (by simp [Timeouts.reset])
    (fun _ _ _ hinside => Timeouts.read?_of_without (hinside.timeouts rfl)) h.timeouts

theorem ReadFrom.allowed {o left : ScenarioOptions} (h : ReadFrom n fields o)
    (hkept : Kept d.scenario (d.Inside n) fields kept) (hleft : ReadFrom n kept left) :
    d.Allowed o where
  name := hkept.not_mem_of_required hleft.name
  builderType := hkept.not_mem_of_required hleft.builderType
  verifyCommand hkey hsome := by
    have hwhole := h.rollout
    have hrest := hleft.rollout
    have hrel := hkept.others "rollout" hkey
    unfold withDefault at hwhole hrest
    generalize fields.lookup "rollout" = found at hwhole hrel
    generalize kept.lookup "rollout" = value at hrest hrel
    cases hrel with
    | none =>
      rw [← Option.some.inj hwhole] at hsome
      cases hsome
    | some hinside => exact not_mem_of_readRollout? (hinside.rollout rfl) hsome hwhole hrest

/-- Options with keys left out are read if only keys with a default were, and these get their defaults. -/
theorem read?_of_leaves {o : ScenarioOptions} (h : d.Leaves n whole rest)
    (hread : read? n whole = some o) :
    (d.Allowed o → read? n rest = some (o.reset d)) ∧ (¬d.Allowed o → read? n rest = none) := by
  obtain ⟨fields, hfields, hfrom⟩ := read?_eq_some_iff.mp hread
  obtain ⟨kept, hrest, hkept⟩ := h.exists_kept hfields
  constructor
  · exact fun hallowed => read?_eq_some_iff.mpr ⟨kept, hrest, hfrom.of_kept hkept hallowed⟩
  · intro hforbidden
    refine Option.eq_none_iff_forall_ne_some.mpr fun left hleft => hforbidden ?_
    obtain ⟨found, hfound, hleftFrom⟩ := read?_eq_some_iff.mp hleft
    obtain rfl := Option.some.inj (hrest.symm.trans hfound)
    exact hfrom.allowed hkept hleftFrom

/-! ## Unknown keys -/

/-- An object has a key that none of the three records knows where it stands. -/
inductive Foreign (n : DataForm V) (value : V) : Prop where
  | scenario {fields : List (String × V)} {field : String × V} (hobject : n.IsObject value fields)
      (hfield : field ∈ fields)
      (hunknown : field.1 ∉ ["name", "builderType", "poolName", "dockerfileOverrides", "targetNodes",
        "skipCleanup", "rollout", "timeouts"])
  | timeouts {fields inner : List (String × V)} {budgets : V} {field : String × V}
      (hobject : n.IsObject value fields) (hbudgets : fields.lookup "timeouts" = some budgets)
      (hinner : n.IsObject budgets inner) (hfield : field ∈ inner)
      (hunknown : field.1 ∉ ["imageRepositorySecs", "renderedConfigSecs", "buildStartSecs",
        "buildCompletionSecs", "nodeImageSecs", "scenarioSecs", "pollIntervalSecs"])
  | rollout {fields inner : List (String × V)} {given rollout : V} {field : String × V}
      (hobject : n.IsObject value fields) (hgiven : fields.lookup "rollout" = some given)
      (hrollout : n.optional given = some rollout) (hinner : n.IsObject rollout inner)
      (hfield : field ∈ inner)
      (hunknown : field.1 ∉ ["verifyCommand", "nodeRole", "deleteNodeOnCleanup"])

theorem read?_eq_none_of_foreign (h : Foreign n whole) : read? n whole = none := by
  refine Option.eq_none_iff_forall_ne_some.mpr fun o hread => ?_
  obtain ⟨found, hfound, hfrom⟩ := read?_eq_some_iff.mp hread
  cases h with
  | scenario hobject hfield hunknown =>
    exact hunknown ((hobject.eq_of_fields?_eq_some hfound).2 _ hfield)
  | timeouts hobject hbudgets hinner hfield hunknown =>
    obtain ⟨rfl, -⟩ := hobject.eq_of_fields?_eq_some hfound
    have htimeouts := hfrom.timeouts
    rw [withDefault, hbudgets] at htimeouts
    obtain ⟨fields, hfields, -⟩ := Timeouts.read?_eq_some_iff.mp htimeouts
    exact hunknown ((hinner.eq_of_fields?_eq_some hfields).2 _ hfield)
  | rollout hobject hgiven hrollout hinner hfield hunknown =>
    obtain ⟨rfl, -⟩ := hobject.eq_of_fields?_eq_some hfound
    have hread := hfrom.rollout
    rw [withDefault, hgiven] at hread
    change readRollout? n _ = _ at hread
    rw [readRollout?, hrollout] at hread
    obtain ⟨r, hr, -⟩ := Option.map_eq_some_iff.mp hread
    obtain ⟨fields, hfields, -⟩ := RolloutOptions.read?_eq_some_iff.mp hr
    exact hunknown ((hinner.eq_of_fields?_eq_some hfields).2 _ hfield)

end ScenarioOptions

end Reading

/-! ## Documents -/

namespace Json

/-- A document without some of the keys of its object. -/
def withoutKeys (dropped : List String) : Json → Json
  | .object fields => .object (fields.filter (·.1 ∉ dropped))
  | json => json

/-- Options that are written as an object, with objects for the budgets and the rollout, or with a rollout
that is nothing. -/
def Nested (json : Json) : Prop :=
  ∃ fields, json = .object fields ∧
    (∀ value, ("timeouts", value) ∈ fields → ∃ inner, value = .object inner) ∧
    ∀ value, ("rollout", value) ∈ fields → value = .null ∨ ∃ inner, value = .object inner

theorem without_withoutKeys (dropped : List String) (fields : Fields) :
    dataForm.Without dropped (.object fields) ((object fields).withoutKeys dropped) := by
  refine .inr ⟨fields, _, isObject_object fields, isObject_object _, ?_⟩
  exact List.forall₂_same.mpr fun field _ => ⟨rfl, rfl⟩

end Json

namespace Omission

/-- What is left of the value under a key of the options. -/
def pruneField (d : Omission) (key : String) (value : Json) : Json :=
  if key = "timeouts" then value.withoutKeys d.timeouts
  else if key = "rollout" then value.withoutKeys d.rollout
  else value

/-- Options without some of their keys. -/
def prune (d : Omission) : Json → Json
  | .object fields => .object ((fields.filter (·.1 ∉ d.scenario)).map fun field =>
      (field.1, d.pruneField field.1 field.2))
  | json => json

theorem leaves_prune {json : Json} (d : Omission) (h : json.Nested) :
    d.Leaves Json.dataForm json (d.prune json) := by
  obtain ⟨fields, rfl, htimeouts, hrollout⟩ := h
  refine ⟨fields, _, Json.isObject_object fields, Json.isObject_object _, ?_⟩
  rw [List.forall₂_map_right_iff, List.forall₂_same]
  rintro ⟨key, value⟩ hfield
  have hmem := List.mem_of_mem_filter hfield
  refine ⟨rfl, ?_, ?_, fun hother => ?_⟩
  · rintro rfl
    obtain ⟨inner, rfl⟩ := htimeouts value hmem
    exact Json.without_withoutKeys d.timeouts inner
  · rintro rfl
    rcases hrollout value hmem with rfl | ⟨inner, rfl⟩
    · exact .none
    · exact .some (Json.without_withoutKeys d.rollout inner)
  · simp only [List.mem_cons, List.not_mem_nil, or_false, not_or] at hother
    rw [pruneField, if_neg hother.1, if_neg hother.2]

end Omission

namespace ScenarioOptions

/-- Options with budgets of 64 bits are read back from what was written. When some keys are left out of an
object that was read, the fields of those with a default have that default and no other changes; when the
name, the builder or the command of a rollout is left out, or a key that no record knows is there, nothing
is read. This is so in every notation; JSON has its objects as they are, and leaves out any of their keys,
and of YAML every node with entries is an object if no key occurs twice. -/
theorem reads_exactly :
    (∀ o : ScenarioOptions, o.timeouts.Fits → read? Json.dataForm o.toJson = some o) ∧
    (∀ (V : Type) (n : DataForm V) (whole : V),
      (∀ o, read? n whole = some o → ∀ (d : Omission) (rest : V), d.Leaves n whole rest →
        (d.Allowed o → read? n rest = some (o.reset d)) ∧ (¬d.Allowed o → read? n rest = none)) ∧
      (Foreign n whole → read? n whole = none)) ∧
    (∀ fields, Json.dataForm.IsObject (.object fields) fields) ∧
    (∀ (d : Omission) (json : Json), json.Nested → d.Leaves Json.dataForm json (d.prune json)) ∧
    ∀ (anchors : Yaml.Node.Anchors) (node : Yaml.Node) (fields : List (String × Yaml.Node)),
      node.entries? anchors = some fields → Yaml.Node.distinctKeys fields = true →
        (Yaml.dataForm anchors).IsObject node fields :=
  ⟨fun _ => read?_toJson,
    fun _ _ _ => ⟨fun _ hread _ _ hleaves => read?_of_leaves hleaves hread, read?_eq_none_of_foreign⟩,
    Json.isObject_object, fun d _ => d.leaves_prune, fun _ _ _ => Yaml.isObject_of_entries⟩

/-- Options with a rollout and a single budget. -/
def writtenRollout : Json :=
  .object [("builderType", .string "custom-pod-builder"), ("name", .string "a"),
    ("poolName", .string "infra"),
    ("rollout", .object [("nodeRole", .string "infra"), ("verifyCommand", .array [.string "true"])]),
    ("timeouts", .object [("scenarioSecs", .int 60)])]

/-- Left out are the pool, the only budget and the role of the nodes, and then the command as well. -/
theorem reads_exactly_pruned :
    let o : ScenarioOptions := { name := "a", builderType := .customPodBuilder, poolName := "infra"
                                 rollout := some { verifyCommand := ["true"], nodeRole := "infra" }
                                 timeouts := { scenario := 60 } }
    let d : Omission := ⟨["poolName"], ["scenarioSecs"], ["nodeRole"]⟩
    let d' : Omission := ⟨["poolName"], ["scenarioSecs"], ["nodeRole", "verifyCommand"]⟩
    read? Json.dataForm writtenRollout = some o ∧
    read? Json.dataForm (d.prune writtenRollout) =
      some { o with poolName := "layered", rollout := some { verifyCommand := ["true"] }, timeouts := {} } ∧
    read? Json.dataForm (d'.prune writtenRollout) = none := by
  intro o d d'
  have hread : read? Json.dataForm writtenRollout = some o := rfl
  have hnested : writtenRollout.Nested := ⟨_, rfl, by simp, by simp⟩
  have hleaves (d : Omission) : d.Leaves Json.dataForm writtenRollout (d.prune writtenRollout) :=
    reads_exactly.2.2.2.1 d _ hnested
  have hreads := (reads_exactly.2.1 Json Json.dataForm writtenRollout).1 o hread
  refine ⟨hread, (hreads d _ (hleaves d)).1 ?_, (hreads d' _ (hleaves d')).2 ?_⟩
  · exact ⟨by decide, by decide, fun _ _ => by decide⟩
  · exact fun hallowed => hallowed.verifyCommand (by decide) rfl (by decide)

end ScenarioOptions

end BuildTrial
