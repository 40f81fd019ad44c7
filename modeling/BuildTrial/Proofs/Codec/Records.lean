import BuildTrial.Proofs.Api.Content
import BuildTrial.Proofs.Codec.Objects

/-!
# Options in writing

Options are three records, one inside of the other. Each of them is read field by field, from whatever is
found under its keys (`ReadFrom`), and it is found where it was written: so options that were written are
read back (`ScenarioOptions.read?_toJson`).
-/

namespace BuildTrial

open DataForm

section Records

variable {V : Type} {n : DataForm V} {value : V} {fields : List (String × V)}

/-! ## What is read from the fields -/

/-- The budgets that are read from the fields of a record. -/
structure Timeouts.ReadFrom (n : DataForm V) (fields : List (String × V)) (t : Timeouts) : Prop where
  imageRepository : withDefault fields "imageRepositorySecs" 120 n.count? = some t.imageRepository
  renderedConfig : withDefault fields "renderedConfigSecs" 300 n.count? = some t.renderedConfig
  buildStart : withDefault fields "buildStartSecs" 300 n.count? = some t.buildStart
  buildCompletion : withDefault fields "buildCompletionSecs" 1200 n.count? = some t.buildCompletion
  nodeImage : withDefault fields "nodeImageSecs" 1200 n.count? = some t.nodeImage
  scenario : withDefault fields "scenarioSecs" 3600 n.count? = some t.scenario
  pollInterval : withDefault fields "pollIntervalSecs" 2 n.count? = some t.pollInterval

theorem Timeouts.read?_eq_some_iff {t : Timeouts} : Timeouts.read? n value = some t ↔
    ∃ fields, n.fields? keys value = some fields ∧ ReadFrom n fields t := by
  simp only [Timeouts.read?, Option.bind_eq_bind, Option.bind_eq_some_iff]
  constructor
  · rintro ⟨fields, hfields, _, himage, _, hrendered, _, hstart, _, hcompletion, _, hnode, _, hscenario, _,
      hinterval, ht⟩
    obtain rfl := Option.some.inj ht
    exact ⟨fields, hfields, himage, hrendered, hstart, hcompletion, hnode, hscenario, hinterval⟩
  · rintro ⟨fields, hfields, h⟩
    exact ⟨fields, hfields, _, h.imageRepository, _, h.renderedConfig, _, h.buildStart, _,
      h.buildCompletion, _, h.nodeImage, _, h.scenario, _, h.pollInterval, rfl⟩

/-- The options for the rollout that are read from the fields of a record. -/
structure RolloutOptions.ReadFrom (n : DataForm V) (fields : List (String × V)) (r : RolloutOptions) :
    Prop where
  verifyCommand : required fields "verifyCommand" n.texts? = some r.verifyCommand
  nodeRole : withDefault fields "nodeRole" "worker" n.text? = some r.nodeRole
  deleteNode : withDefault fields "deleteNodeOnCleanup" true n.flag? = some r.deleteNode

theorem RolloutOptions.read?_eq_some_iff {r : RolloutOptions} : RolloutOptions.read? n value = some r ↔
    ∃ fields, n.fields? keys value = some fields ∧ ReadFrom n fields r := by
  simp only [RolloutOptions.read?, Option.bind_eq_bind, Option.bind_eq_some_iff]
  constructor
  · rintro ⟨fields, hfields, _, hcommand, _, hrole, _, hdelete, hr⟩
    obtain rfl := Option.some.inj hr
    exact ⟨fields, hfields, hcommand, hrole, hdelete⟩
  · rintro ⟨fields, hfields, h⟩
    exact ⟨fields, hfields, _, h.verifyCommand, _, h.nodeRole, _, h.deleteNode, rfl⟩

namespace ScenarioOptions

/-- The options that are read from the fields of a record. -/
structure ReadFrom (n : DataForm V) (fields : List (String × V)) (o : ScenarioOptions) : Prop where
  name : required fields "name" n.text? = some o.name
  builderType : required fields "builderType" (fun value => (n.choice? value).bind BuilderType.ofText?) =
    some o.builderType
  poolName : withDefault fields "poolName" "layered" n.text? = some o.poolName
  dockerfiles : withDefault fields "dockerfileOverrides" ∅ n.textMap? = some o.dockerfiles
  targetNodes : withDefault fields "targetNodes" [] n.texts? = some o.targetNodes
  skipCleanup : withDefault fields "skipCleanup" false n.flag? = some o.skipCleanup
  rollout : withDefault fields "rollout" none (readRollout? n) = some o.rollout
  timeouts : withDefault fields "timeouts" {} (Timeouts.read? n) = some o.timeouts

theorem read?_eq_some_iff {o : ScenarioOptions} : ScenarioOptions.read? n value = some o ↔
    ∃ fields, n.fields? keys value = some fields ∧ ReadFrom n fields o := by
  simp only [ScenarioOptions.read?, Option.bind_eq_bind, Option.bind_eq_some_iff]
  constructor
  · rintro ⟨fields, hfields, _, hname, _, hbuilder, _, hpool, _, hdockerfiles, _, htargets, _, hskip, _,
      hrollout, _, htimeouts, ho⟩
    obtain rfl := Option.some.inj ho
    exact ⟨fields, hfields, hname, hbuilder, hpool, hdockerfiles, htargets, hskip, hrollout, htimeouts⟩
  · rintro ⟨fields, hfields, h⟩
    exact ⟨fields, hfields, _, h.name, _, h.builderType, _, h.poolName, _, h.dockerfiles, _,
      h.targetNodes, _, h.skipCleanup, _, h.rollout, _, h.timeouts, rfl⟩

end ScenarioOptions

end Records

/-! ## What was written -/

namespace Json

/-- A record with the keys of an object finds under each of them what was written for it. -/
theorem exists_fields_ofFields (fields : Fields) (hnodup : (fields.map Prod.fst).Nodup) :
    ∃ found, dataForm.fields? (fields.map Prod.fst) (.ofFields fields) = some found ∧
      ∀ key, found.lookup key = fields.lookup key := by
  refine ⟨orderedFields fields, ?_, lookup_orderedFields hnodup⟩
  rw [ofFields, isObject_object (orderedFields fields), if_pos]
  intro field hfield
  exact List.mem_map_of_mem ((orderedFields_perm hnodup).mem_iff.mp hfield)

theorem dataForm_count? : dataForm.count? = count? := rfl

theorem count?_ofNat {n : Nat} (h : n < 2 ^ 64) : dataForm.count? (.ofNat n) = some n := by
  have hint : (0 : Int) ≤ n ∧ (n : Int) < 2 ^ 64 := by omega
  rw [dataForm_count?, ofNat, count?, if_pos hint, Int.toNat_natCast]

theorem texts?_strings (items : List String) : dataForm.texts? (.strings items) = some items := by
  change (items.map Json.string).mapM string? = some items
  rw [List.mapM_map]
  change items.mapM (m := Option) (fun item => pure (id item)) = some items
  rw [List.mapM_pure, List.map_id]
  rfl

theorem textMap?_ofStringMap (map : StringMap String) :
    dataForm.textMap? (.ofStringMap map) = some map := by
  rw [← Api.Metadata.textMap?_ofStringMap map, DataForm.textMap?, Api.Metadata.textMap?]
  simp only [Option.map_eq_bind]
  rfl

end Json

/-- Every budget has a place in 64 bits. -/
def Timeouts.Fits (t : Timeouts) : Prop := ∀ budget ∈ t.budgets, budget.2 < 2 ^ 64

theorem Timeouts.read?_toJson {t : Timeouts} (h : t.Fits) :
    Timeouts.read? Json.dataForm t.toJson = some t := by
  obtain ⟨found, hfound, hlookup⟩ := Json.exists_fields_ofFields
    [("imageRepositorySecs", .ofNat t.imageRepository),
      ("renderedConfigSecs", .ofNat t.renderedConfig), ("buildStartSecs", .ofNat t.buildStart),
      ("buildCompletionSecs", .ofNat t.buildCompletion), ("nodeImageSecs", .ofNat t.nodeImage),
      ("scenarioSecs", .ofNat t.scenario), ("pollIntervalSecs", .ofNat t.pollInterval)] (by simp)
  have hcount : ∀ budget ∈ t.budgets, Json.dataForm.count? (.ofNat budget.2) = some budget.2 :=
    fun budget hbudget => Json.count?_ofNat (h budget hbudget)
  simp only [budgets, List.forall_mem_cons] at hcount
  refine read?_eq_some_iff.mpr ⟨found, hfound, ?_⟩
  constructor <;> simp [withDefault, hlookup, List.lookup_cons, hcount]

theorem RolloutOptions.read?_toJson (r : RolloutOptions) :
    RolloutOptions.read? Json.dataForm r.toJson = some r := by
  obtain ⟨found, hfound, hlookup⟩ := Json.exists_fields_ofFields
    [("verifyCommand", .strings r.verifyCommand), ("nodeRole", .string r.nodeRole),
      ("deleteNodeOnCleanup", .bool r.deleteNode)] (by simp)
  refine read?_eq_some_iff.mpr ⟨found, hfound, ?_, ?_, ?_⟩
  · simp [required, hlookup, Json.texts?_strings]
  · simp [withDefault, hlookup, List.lookup_cons, Json.dataForm, Json.string?]
  · simp [withDefault, hlookup, List.lookup_cons, Json.dataForm, Json.bool?]

theorem BuilderType.ofText?_text (builder : BuilderType) : ofText? builder.text = some builder := by
  cases builder <;> rfl

namespace ScenarioOptions

theorem readRollout?_ofOption (rollout : Option RolloutOptions) :
    readRollout? Json.dataForm (.ofOption RolloutOptions.toJson rollout) = some rollout := by
  cases rollout with
  | none => rfl
  | some rollout =>
    change (RolloutOptions.read? Json.dataForm rollout.toJson).map some = some (some rollout)
    rw [RolloutOptions.read?_toJson, Option.map_some]

/-- Options that were written are read back as they were. -/
theorem read?_toJson {o : ScenarioOptions} (h : o.timeouts.Fits) :
    ScenarioOptions.read? Json.dataForm o.toJson = some o := by
  obtain ⟨found, hfound, hlookup⟩ := Json.exists_fields_ofFields
    [("name", .string o.name), ("builderType", .string o.builderType.text),
      ("poolName", .string o.poolName), ("dockerfileOverrides", .ofStringMap o.dockerfiles),
      ("targetNodes", .strings o.targetNodes), ("skipCleanup", .bool o.skipCleanup),
      ("rollout", .ofOption RolloutOptions.toJson o.rollout), ("timeouts", o.timeouts.toJson)]
    (by simp)
  refine read?_eq_some_iff.mpr ⟨found, hfound, ?_⟩
  constructor
  · simp [required, hlookup, Json.dataForm, Json.string?]
  · simp [required, hlookup, List.lookup_cons, Json.dataForm, Json.choice?, BuilderType.ofText?_text]
  · simp [withDefault, hlookup, List.lookup_cons, Json.dataForm, Json.string?]
  · simp [withDefault, hlookup, List.lookup_cons, Json.textMap?_ofStringMap]
  · simp [withDefault, hlookup, List.lookup_cons, Json.texts?_strings]
  · simp [withDefault, hlookup, List.lookup_cons, Json.dataForm, Json.bool?]
  · simp [withDefault, hlookup, List.lookup_cons, readRollout?_ofOption]
  · simp [withDefault, hlookup, List.lookup_cons, Timeouts.read?_toJson h]

end ScenarioOptions

end BuildTrial
