import Mathlib.Order.Bounds.Basic
import Mathlib.Order.Lattice
import BuildTrial.Api.Representation

/-!
# The status of a pool

What a pool reports is untyped: any part of it may be missing, repeated or of a shape that nobody expects.
Reading a pool fails for none of this. Parts that are ill-formed count as absent, and of the conditions that
are left the strongest one counts, wherever it stands and however often (`isGreatest_buildStateOf`).
-/

namespace BuildTrial

/-! ## Build states in order -/

namespace BuildState

/-- How strong a state is: failure outranks success, and success outranks work in progress. -/
def rank : BuildState → Nat
  | .idle => 0
  | .building => 1
  | .succeeded => 2
  | .failed => 3

theorem rank_injective : Function.Injective rank := by
  intro a b h
  cases a <;> cases b <;> first | rfl | cases h

instance : LinearOrder BuildState := LinearOrder.lift' rank rank_injective

end BuildState

/-! ## Paths into documents -/

namespace Json

/-- The value at the end of a path of keys through nested objects. -/
def at? : List String → Json → Option Json
  | [], json => some json
  | key :: path, .object fields => (fields.lookup key).bind (at? path)
  | _ :: _, _ => none

/-- The text at the end of a path, if there is one. -/
def textAt? (path : List String) (json : Json) : Option String :=
  match json.at? path with
  | some (.string value) => some value
  | _ => none

/-- The items of the list at the end of a path; none if there is no list. -/
def itemsAt (path : List String) (json : Json) : List Json :=
  match json.at? path with
  | some (.array items) => items
  | _ => []

theorem at?_cons (key : String) (path : List String) (json : Json) :
    json.at? (key :: path) = (json.field? key).bind (at? path) := by
  cases json <;> rfl

theorem at?_singleton (key : String) (json : Json) : json.at? [key] = json.field? key := by
  rw [at?_cons]
  cases json.field? key <;> rfl

theorem textAt?_eq (path : List String) (json : Json) :
    json.textAt? path = (json.at? path).bind string? := by
  unfold textAt?
  cases json.at? path with
  | none => rfl
  | some value => cases value <;> rfl

theorem itemsAt_eq (path : List String) (json : Json) :
    json.itemsAt path = ((json.at? path).bind items?).getD [] := by
  unfold itemsAt
  cases json.at? path with
  | none => rfl
  | some value => cases value <;> rfl

end Json

namespace Api

/-! ## Conditions -/

/-- The types of conditions that tell a build state. -/
def toldBy : List (String × BuildState) :=
  [("Building", .building), ("BuildSuccess", .succeeded), ("BuildFailed", .failed)]

/-- A condition tells a state if it is well formed, is of the type for the state and holds. -/
inductive Tells : Json → BuildState → Prop where
  | condition {fields : Json.Fields} {type : String} {state : BuildState}
      (type_eq : fields.lookup "type" = some (.string type))
      (holds : fields.lookup "status" = some (.string "True"))
      (told : (type, state) ∈ toldBy) : Tells (.object fields) state

/-- The states that some of the conditions tell. -/
def Told (conditions : List Json) : Set BuildState := {state | ∃ c ∈ conditions, Tells c state}

variable {conditions before after : List Json} {condition : Json} {state : BuildState}

theorem field?_bind_string?_eq_some_iff {json : Json} {key value : String} :
    (json.field? key).bind Json.string? = some value ↔
      ∃ fields, json = .object fields ∧ fields.lookup key = some (.string value) := by
  cases json with
  | object fields =>
    cases hfound : fields.lookup key with
    | none => simp [Json.field?, hfound]
    | some found => cases found <;> simp [Json.field?, Json.string?, hfound]
  | _ => simp [Json.field?]

theorem isTrueCondition_iff {type : String} (h : (type, state) ∈ toldBy) :
    isTrueCondition type condition = true ↔ Tells condition state := by
  rw [isTrueCondition, Bool.and_eq_true, decide_eq_true_eq, decide_eq_true_eq,
    field?_bind_string?_eq_some_iff, field?_bind_string?_eq_some_iff]
  constructor
  · rintro ⟨⟨fields, rfl, htype⟩, _, ⟨⟩, hstatus⟩
    exact .condition htype hstatus h
  · rintro ⟨htype, hstatus, htold⟩
    rename_i fields type'
    -- A state has one type of conditions only.
    obtain rfl : type' = type := by
      simp only [toldBy, List.mem_cons, Prod.mk.injEq, List.not_mem_nil, or_false] at h htold
      grind
    exact ⟨⟨fields, rfl, htype⟩, fields, rfl, hstatus⟩

theorem any_isTrueCondition_iff {type : String} (h : (type, state) ∈ toldBy) :
    conditions.any (isTrueCondition type) = true ↔ state ∈ Told conditions := by
  rw [List.any_eq_true]
  exact exists_congr fun c => and_congr_right fun _ => isTrueCondition_iff h

/-- A state is the strongest if no stronger one is told. -/
theorem isGreatest_told (hmem : state ∈ insert .idle (Told conditions))
    (hnot : ∀ stronger, state < stronger → stronger ∉ Told conditions) :
    IsGreatest (insert .idle (Told conditions)) state := by
  refine ⟨hmem, fun other hother => ?_⟩
  by_contra hlt
  rw [not_le] at hlt
  rcases hother with rfl | htold
  · cases state <;> exact absurd hlt (by decide)
  · exact hnot other hlt htold

/-- The state of a pool is the strongest that its conditions tell, and idle if they tell none. -/
theorem isGreatest_buildStateOf (conditions : List Json) :
    IsGreatest (insert .idle (Told conditions)) (buildStateOf conditions) := by
  have hfailed : conditions.any (isTrueCondition "BuildFailed") = true ↔ .failed ∈ Told conditions :=
    any_isTrueCondition_iff (by decide)
  have hsucceeded :
      conditions.any (isTrueCondition "BuildSuccess") = true ↔ .succeeded ∈ Told conditions :=
    any_isTrueCondition_iff (by decide)
  have hbuilding :
      conditions.any (isTrueCondition "Building") = true ↔ .building ∈ Told conditions :=
    any_isTrueCondition_iff (by decide)
  -- Each state is tried only after all that are stronger were not told.
  unfold buildStateOf
  split_ifs with hf hs hb
  · refine isGreatest_told (.inr (hfailed.mp hf)) fun stronger hlt => ?_
    cases stronger <;> exact absurd hlt (by decide)
  · refine isGreatest_told (.inr (hsucceeded.mp hs)) fun stronger hlt => ?_
    cases stronger with
    | failed => exact fun htold => hf (hfailed.mpr htold)
    | _ => exact absurd hlt (by decide)
  · refine isGreatest_told (.inr (hbuilding.mp hb)) fun stronger hlt => ?_
    cases stronger with
    | failed => exact fun htold => hf (hfailed.mpr htold)
    | succeeded => exact fun htold => hs (hsucceeded.mpr htold)
    | _ => exact absurd hlt (by decide)
  · refine isGreatest_told (.inl rfl) fun stronger hlt => ?_
    cases stronger with
    | failed => exact fun htold => hf (hfailed.mpr htold)
    | succeeded => exact fun htold => hs (hsucceeded.mpr htold)
    | building => exact fun htold => hb (hbuilding.mpr htold)
    | idle => exact absurd hlt (by decide)

/-! ## What does not matter -/

/-- Conditions that tell the same states make the same state of the pool. -/
theorem buildStateOf_congr {others : List Json} (h : Told conditions = Told others) :
    buildStateOf conditions = buildStateOf others := by
  have hothers := isGreatest_buildStateOf others
  rw [← h] at hothers
  exact (isGreatest_buildStateOf conditions).unique hothers

theorem told_append (conditions others : List Json) :
    Told (conditions ++ others) = Told conditions ∪ Told others := by
  ext state
  simp [Told, or_and_right, exists_or]

theorem buildStateOf_append (conditions others : List Json) :
    buildStateOf (conditions ++ others) = max (buildStateOf conditions) (buildStateOf others) := by
  have hunion := (isGreatest_buildStateOf conditions).union (isGreatest_buildStateOf others)
  rw [← Set.insert_union_distrib, ← told_append] at hunion
  exact (isGreatest_buildStateOf (conditions ++ others)).unique hunion

theorem buildStateOf_perm {others : List Json} (h : conditions.Perm others) :
    buildStateOf conditions = buildStateOf others := by
  apply buildStateOf_congr
  ext state
  exact exists_congr fun c => and_congr_left fun _ => h.mem_iff

/-- One more condition changes nothing if it stands there already or tells nothing. -/
theorem buildStateOf_insert (h : condition ∈ before ++ after ∨ ∀ state, ¬Tells condition state) :
    buildStateOf (before ++ condition :: after) = buildStateOf (before ++ after) := by
  apply buildStateOf_congr
  ext state
  constructor
  · rintro ⟨c, hc, htells⟩
    rw [List.mem_append, List.mem_cons, ← or_assoc, or_comm (a := c ∈ before), or_assoc,
      ← List.mem_append] at hc
    rcases hc with rfl | hc
    · exact ⟨c, h.resolve_right fun hnot => hnot state htells, htells⟩
    · exact ⟨c, hc, htells⟩
  · rintro ⟨c, hc, htells⟩
    refine ⟨c, ?_, htells⟩
    rw [List.mem_append] at hc ⊢
    exact hc.imp_right (List.mem_cons_of_mem _)

/-! ## The merged configuration -/

/-- A merged configuration is reported if it has a name. Its sources are those that have names. -/
theorem renderedConfigOf?_eq_some_iff {status : Json} {rendered : RenderedConfig} :
    renderedConfigOf? status = some rendered ↔
      rendered.name ≠ "" ∧ status.textAt? ["configuration", "name"] = some rendered.name ∧
      rendered.sources =
        (status.itemsAt ["configuration", "source"]).filterMap (Json.textAt? ["name"]) := by
  have hsource : ∀ source : Json, source.textAt? ["name"] = (source.field? "name").bind Json.string? := by
    intro source
    rw [Json.textAt?_eq, Json.at?_singleton]
  rw [funext hsource, Json.textAt?_eq, Json.itemsAt_eq, Json.at?_cons, Json.at?_cons]
  cases hconfiguration : status.field? "configuration" with
  | none => simp [renderedConfigOf?, hconfiguration]
  | some configuration =>
    rw [Option.bind_some, Option.bind_some, Json.at?_singleton, Json.at?_singleton]
    simp only [renderedConfigOf?, hconfiguration, nonEmptyText?, Option.bind_eq_bind, Option.bind_some,
      Option.bind_eq_some_iff, Option.filter_eq_some_iff, Option.pure_def, Option.some.injEq]
    constructor
    · rintro ⟨name, ⟨htext, hne⟩, rfl⟩
      exact ⟨of_decide_eq_true hne, htext, rfl⟩
    · rintro ⟨hne, htext, hsources⟩
      exact ⟨rendered.name, ⟨htext, decide_eq_true hne⟩, by rw [← hsources]⟩

/-! ## Pools -/

/-- All of an object besides its type and metadata, as a document. -/
def Object.document (object : Object) : Json := .object object.content

/-- Below the status, an object that has none is like one whose status is `null`. -/
theorem at?_status (object : Object) (key : String) (path : List String) :
    object.document.at? ("status" :: key :: path) =
      ((object.get? "status").getD .null).at? (key :: path) := by
  rw [Json.at?_cons]
  change (object.get? "status").bind (Json.at? (key :: path)) = _
  cases object.get? "status" <;> rfl

theorem textAt?_status (object : Object) (key : String) (path : List String) :
    object.document.textAt? ("status" :: key :: path) =
      ((object.get? "status").getD .null).textAt? (key :: path) := by
  rw [Json.textAt?_eq, Json.textAt?_eq, at?_status]

theorem itemsAt_status (object : Object) (key : String) (path : List String) :
    object.document.itemsAt ("status" :: key :: path) =
      ((object.get? "status").getD .null).itemsAt (key :: path) := by
  rw [Json.itemsAt_eq, Json.itemsAt_eq, at?_status]

/-- Any object with a name is read as a pool, whatever its status looks like. The state is the strongest
that the conditions of the status tell. So the state of two lists is the greater of their states, and
conditions that are permuted, repeated or tell nothing do not matter. A merged configuration is reported
if the status has one with a name, and then its sources are the sources with names, in their order. -/
theorem readPool_of_any_status :
    (∀ (object : Object) (name : String), object.metadata.name = some name →
      ∃ pool : Pool, Kind.read .pool object = .ok pool ∧ pool.name = name ∧
        pool.state = buildStateOf (object.document.itemsAt ["status", "conditions"]) ∧
        ∀ rendered, pool.rendered = some rendered ↔
          rendered.name ≠ "" ∧
          object.document.textAt? ["status", "configuration", "name"] = some rendered.name ∧
          rendered.sources = (object.document.itemsAt ["status", "configuration", "source"]).filterMap
            (Json.textAt? ["name"])) ∧
    (BuildState.idle < .building ∧ BuildState.building < .succeeded ∧
      BuildState.succeeded < .failed) ∧
    (∀ conditions, IsGreatest (insert .idle (Told conditions)) (buildStateOf conditions)) ∧
    (∀ conditions others,
      buildStateOf (conditions ++ others) = max (buildStateOf conditions) (buildStateOf others)) ∧
    (∀ conditions others, conditions.Perm others → buildStateOf conditions = buildStateOf others) ∧
    ∀ before condition after, (condition ∈ before ++ after ∨ ∀ state, ¬Tells condition state) →
      buildStateOf (before ++ condition :: after) = buildStateOf (before ++ after) := by
  refine ⟨fun object name hname => ?_, by decide, isGreatest_buildStateOf, buildStateOf_append,
    fun _ _ h => buildStateOf_perm h, fun _ _ _ h => buildStateOf_insert h⟩
  have hread : Kind.read .pool object =
      nameOf .pool object >>= fun name => .ok
        { name
          labels := object.labels
          state := buildStateOf
            (((((object.get? "status").getD .null).field? "conditions").bind Json.items?).getD [])
          image := object.metadata.annotation? builtImageKey
          rendered := renderedConfigOf? ((object.get? "status").getD .null) } := rfl
  have hnameOf : nameOf .pool object = .ok name := by rw [nameOf, hname]
  rw [hread, hnameOf]
  refine ⟨_, rfl, rfl, ?_, fun rendered => ?_⟩
  · rw [itemsAt_status, Json.itemsAt_eq, Json.at?_singleton]
  · rw [textAt?_status, itemsAt_status]
    exact renderedConfigOf?_eq_some_iff

/-- A condition as the controller writes it. -/
def conditionOf (type status : String) : Json :=
  .object [("status", .string status), ("type", .string type)]

/-- A pool whose conditions contradict each other, with parts that are no conditions and no sources. -/
def scrambledPool : Object where
  type := some ⟨"machineconfiguration.openshift.io/v1", "MachineConfigPool"⟩
  metadata := { name := some "layered" }
  content :=
    [("status", .object
      [("conditions", .array
          [conditionOf "BuildFailed" "True", .int 7, conditionOf "BuildSuccess" "True"]),
        ("configuration", .object
          [("name", .string "rendered-layered-1"),
            ("source", .array [.object [("name", .string "00-worker")], .null])])])]

/-- The failure counts on whichever side of the success it stands, and what is no condition does not. -/
theorem readPool_of_any_status_scrambled :
    (∃ pool : Pool, Kind.read .pool scrambledPool = .ok pool ∧ pool.state = .failed ∧
      pool.rendered = some ⟨"rendered-layered-1", ["00-worker"]⟩) ∧
    buildStateOf [conditionOf "BuildSuccess" "True", conditionOf "BuildFailed" "True"] = .failed ∧
    buildStateOf [.null, conditionOf "BuildSuccess" "True"] = .succeeded := by
  obtain ⟨hread, -, -, -, hperm, hinsert⟩ := readPool_of_any_status
  obtain ⟨pool, hpool, -, hstate, hrendered⟩ := hread scrambledPool "layered" rfl
  refine ⟨⟨pool, hpool, hstate.trans rfl, (hrendered _).mpr ⟨by decide, rfl, rfl⟩⟩, ?_, ?_⟩
  · exact (hperm _ _ (List.Perm.swap (conditionOf "BuildFailed" "True") _ [])).trans rfl
  · exact (hinsert [] .null [conditionOf "BuildSuccess" "True"] (.inr fun _ h => nomatch h)).trans rfl

end Api

end BuildTrial
