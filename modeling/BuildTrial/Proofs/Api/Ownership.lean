import BuildTrial.Proofs.Api.Content
import BuildTrial.Proofs.Api.Cycles

/-!
# What a resource owns of its object

A resource and the object it stands for are tied by a lens. An update overwrites the fields that the
resource owns, and these are read back as they were written. Everything else that is read is as
before, and so is every part of the object that no resource looks at (`Kind.Untouched`). Resources
that are created carry the same fields and no others (`Kind.read_toObject`): what only the controllers
report is not there yet.
-/

namespace BuildTrial

namespace Api

variable {kind : Kind} {object written : Object} {key other : String} {value : Json}

theorem Object.get?_set_self (object : Object) (key : String) (value : Json) :
    (object.set key value).get? key = some value :=
  Json.lookup_setField_self key value object.content

theorem Object.get?_set_of_ne (h : other ≠ key) (object : Object) (value : Json) :
    (object.set key value).get? other = object.get? other :=
  Json.lookup_setField_of_ne h value object.content

theorem Shape.isSome_nullOr {shape : Shape} {room : Nat} {written : Written}
    (h : (shape room written).isSome) : (nullOr shape room written).isSome := by
  unfold nullOr
  split
  · rfl
  · exact h

/-! ## Objects of a type -/

/-- A new part of its shape leaves an object well formed. -/
theorem isWellFormed_set {fields : List (String × Shape)} (h : isWellFormed kind fields object = true)
    (hversion : key ≠ "apiVersion") (hkind : key ≠ "kind")
    (hshape : ∀ shape, (key, shape) ∈ fields → (shape Json.maxDepth (.ofJson value)).isSome) :
    isWellFormed kind fields (object.set key value) = true := by
  simp only [isWellFormed, Bool.and_eq_true] at h ⊢
  obtain ⟨⟨⟨htype, hversionText⟩, hkindText⟩, hfields⟩ := h
  refine ⟨⟨⟨htype, ?_⟩, ?_⟩, ?_⟩
  · rw [Object.get?_set_of_ne hversion.symm]
    exact hversionText
  · rw [Object.get?_set_of_ne hkind.symm]
    exact hkindText
  · rw [List.all_eq_true] at hfields ⊢
    intro field hfield
    by_cases hkey : field.1 = key
    · obtain rfl := hkey
      rw [Object.get?_set_self]
      exact Shape.isSome_nullOr (hshape field.2 hfield)
    · rw [Object.get?_set_of_ne hkey]
      exact hfields field hfield

theorem isWellFormed_newObject (kind : Kind) (fields : List (String × Shape)) (name : String) :
    isWellFormed kind fields (newObject kind name) = true := by
  simp [isWellFormed, newObject, Object.get?]

theorem isWellFormed_writeConfigMap (h : isWellFormed .configMap configMapFields object = true)
    (map : ConfigMap) : isWellFormed .configMap configMapFields (writeConfigMap map object) = true := by
  refine isWellFormed_set h (by decide) (by decide) ?_
  intro shape hshape
  obtain rfl : shape = .mapOf .text := by simpa [configMapFields] using hshape
  exact isSome_text_ofStringMap map.data

theorem isWellFormed_writeSecret (h : isWellFormed .secret secretFields object = true)
    (secret : Secret) : isWellFormed .secret secretFields (writeSecret secret object) = true := by
  refine isWellFormed_set (isWellFormed_set h (by decide) (by decide) ?_) (by decide) (by decide) ?_
  · intro shape hshape
    obtain rfl : shape = .text := by simpa [secretFields] using hshape
    rfl
  · intro shape hshape
    obtain rfl : shape = .mapOf .bytes := by simpa [secretFields] using hshape
    exact isSome_bytes_encodedData secret.data

theorem readConfigMap_eq (h : isWellFormed .configMap configMapFields object = true) :
    readConfigMap object = nameOf .configMap object >>= fun name =>
      .ok { name, data := ((object.get? "data").bind Metadata.textMap?).getD ∅ } := by
  rw [readConfigMap, h]
  rfl

theorem readSecret_eq (h : isWellFormed .secret secretFields object = true) :
    readSecret object = nameOf .secret object >>= fun name =>
      .ok { name, type := ((object.get? "type").bind Json.string?).getD ""
            data := secretData object } := by
  rw [readSecret, h]
  rfl

theorem isWellFormed_of_readConfigMap {map : ConfigMap} (h : readConfigMap object = .ok map) :
    isWellFormed .configMap configMapFields object = true := by
  by_contra hformed
  rw [Bool.not_eq_true] at hformed
  rw [readConfigMap, hformed] at h
  cases h

theorem isWellFormed_of_readSecret {secret : Secret} (h : readSecret object = .ok secret) :
    isWellFormed .secret secretFields object = true := by
  by_contra hformed
  rw [Bool.not_eq_true] at hformed
  rw [readSecret, hformed] at h
  cases h

/-! ## Reading what was written -/

theorem readConfigMap_writeConfigMap (h : isWellFormed .configMap configMapFields object = true)
    (map : ConfigMap) :
    readConfigMap (writeConfigMap map object) =
      nameOf .configMap object >>= fun name => .ok { name, data := map.data } := by
  have hdata : (writeConfigMap map object).get? "data" = some (.ofStringMap map.data) :=
    object.get?_set_self "data" (.ofStringMap map.data)
  rw [readConfigMap_eq (isWellFormed_writeConfigMap h map), hdata, Option.bind_some,
    Metadata.textMap?_ofStringMap, Option.getD_some]
  rfl

theorem readSecret_writeSecret (h : isWellFormed .secret secretFields object = true) (secret : Secret) :
    readSecret (writeSecret secret object) =
      nameOf .secret object >>= fun name => .ok { name, type := secret.type, data := secret.data } := by
  have hdata : (writeSecret secret object).get? "data" = some (encodedData secret.data) :=
    Object.get?_set_self _ _ _
  have htype : (writeSecret secret object).get? "type" = some (.string secret.type) := by
    rw [writeSecret, Object.get?_set_of_ne (by decide), Object.get?_set_self]
  rw [readSecret_eq (isWellFormed_writeSecret h secret), secretData_of_encodedData hdata, htype]
  rfl

/-- What is made of a name alone is made of the name of any object that has it. -/
theorem nameOf_bind_congr {α : Type} {make make' : String → α} {edit : α → α} {old : α}
    (hname : nameOf kind written = nameOf kind object) (hmake : ∀ name, make' name = edit (make name))
    (h : (nameOf kind object >>= fun name => .ok (make name)) = .ok old) :
    (nameOf kind written >>= fun name => .ok (make' name)) = .ok (edit old) := by
  rw [hname]
  cases hobject : nameOf kind object with
  | error e =>
    rw [hobject] at h
    cases h
  | ok name =>
    rw [hobject] at h
    obtain rfl := Except.ok.inj h
    exact congrArg Except.ok (hmake name)

/-! ## Writing twice -/

theorem writeConfigMap_writeConfigMap (map later : ConfigMap) (object : Object) :
    writeConfigMap later (writeConfigMap map object) = writeConfigMap later object := by
  simp [writeConfigMap, Object.set, Json.setField_setField]

/-- The later entries replace the first ones also when the later type stands between them. -/
theorem writeSecret_writeSecret (secret later : Secret) (object : Object) :
    writeSecret later (writeSecret secret object) = writeSecret later object := by
  have hne : "type" ≠ "data" := by decide
  simp only [writeSecret, Object.set]
  rw [Json.setField_comm hne, Json.setField_setField, Json.setField_setField]

end Api

namespace Kind

open Api

/-! ## Ownership -/

/-- Whether resources of the kind own parts of their objects, so that they can be updated. -/
def isUpdatable : Kind → Bool
  | .pool | .configMap | .secret | .node => true
  | .imageRepository | .machine => false

/-- Whether resources of the kind own the labels of their objects. -/
def ownsLabels : Kind → Bool
  | .pool | .node => true
  | .configMap | .secret | .imageRepository | .machine => false

/-- The parts of their objects besides metadata that resources of the kind own. -/
def ownedParts : Kind → List String
  | .configMap => ["data"]
  | .secret => ["type", "data"]
  | .pool | .imageRepository | .node | .machine => []

/-- A resource with the fields that it owns taken from another one. -/
def overwrite : (kind : Kind) → (desired old : kind.Model) → kind.Model
  | .pool => fun (desired old : Pool) => { old with labels := desired.labels }
  | .configMap => fun (desired old : ConfigMap) => { old with data := desired.data }
  | .secret => fun (desired old : Secret) => { old with type := desired.type, data := desired.data }
  | .imageRepository => fun _ old => old
  | .node => fun (desired old : Node) => { old with labels := desired.labels }
  | .machine => fun _ old => old

/-- All of an object that resources of the kind do not own is as it was before. -/
structure Untouched (kind : Kind) (object written : Object) : Prop where
  type : written.type = object.type
  metadata : { written.metadata with labels := object.metadata.labels } = object.metadata
  labels : kind.ownsLabels = false → written.metadata.labels = object.metadata.labels
  content : written.content.filter (·.1 ∉ kind.ownedParts) =
    object.content.filter (·.1 ∉ kind.ownedParts)

variable {object written : Object}

theorem untouched_setLabels {kind : Kind} (h : kind.ownsLabels = true) (object : Object)
    (labels : StringMap String) : kind.Untouched object (object.setLabels labels) where
  type := rfl
  metadata := rfl
  labels := fun hnot => by
    rw [h] at hnot
    cases hnot
  content := rfl

theorem untouched_refl (kind : Kind) (object : Object) : kind.Untouched object object :=
  ⟨rfl, rfl, fun _ => rfl, rfl⟩

/-- Overwriting an owned part touches nothing else. -/
theorem Untouched.set {kind : Kind} {key : String} (h : kind.Untouched object written)
    (hkey : key ∈ kind.ownedParts) (value : Json) : kind.Untouched object (written.set key value) where
  type := h.type
  metadata := h.metadata
  labels := h.labels
  content := by
    rw [← h.content]
    exact Json.filter_setField (fun _ => by simp [hkey]) value written.content

theorem exists_writeTo {kind : Kind} (h : kind.isUpdatable = true) (desired : kind.Model)
    (object : Object) :
    ∃ written, kind.writeTo desired object = .ok written ∧ kind.Untouched object written := by
  cases kind with
  | pool => exact ⟨_, rfl, untouched_setLabels rfl object _⟩
  | node => exact ⟨_, rfl, untouched_setLabels rfl object _⟩
  | configMap =>
    exact ⟨_, rfl, (untouched_refl _ object).set (by decide) _⟩
  | secret =>
    exact ⟨_, rfl, ((untouched_refl _ object).set (by decide) _).set (by decide) _⟩
  | imageRepository => cases h
  | machine => cases h

/-- What was written is read back, and the rest of the resource with it. -/
theorem read_of_writeTo {kind : Kind} {desired old : kind.Model}
    (hwritten : kind.writeTo desired object = .ok written) (h : kind.read object = .ok old) :
    kind.read written = .ok (kind.overwrite desired old) := by
  cases kind with
  | pool =>
    obtain rfl := Except.ok.inj hwritten
    exact nameOf_bind_congr rfl (fun _ => rfl) h
  | node =>
    obtain rfl := Except.ok.inj hwritten
    exact nameOf_bind_congr rfl (fun _ => rfl) h
  | configMap =>
    obtain rfl := Except.ok.inj hwritten
    have hformed := isWellFormed_of_readConfigMap h
    refine (readConfigMap_writeConfigMap hformed desired).trans ?_
    exact nameOf_bind_congr rfl (fun _ => rfl) ((readConfigMap_eq hformed).symm.trans h)
  | secret =>
    obtain rfl := Except.ok.inj hwritten
    have hformed := isWellFormed_of_readSecret h
    refine (readSecret_writeSecret hformed desired).trans ?_
    exact nameOf_bind_congr rfl (fun _ => rfl) ((readSecret_eq hformed).symm.trans h)
  | imageRepository => cases hwritten
  | machine => cases hwritten

theorem writeTo_writeTo {kind : Kind} {desired : kind.Model}
    (hwritten : kind.writeTo desired object = .ok written) (later : kind.Model) :
    kind.writeTo later written = kind.writeTo later object := by
  cases kind with
  | pool =>
    obtain rfl := Except.ok.inj hwritten
    rfl
  | node =>
    obtain rfl := Except.ok.inj hwritten
    rfl
  | configMap =>
    obtain rfl := Except.ok.inj hwritten
    exact congrArg Except.ok (writeConfigMap_writeConfigMap desired later object)
  | secret =>
    obtain rfl := Except.ok.inj hwritten
    exact congrArg Except.ok (writeSecret_writeSecret desired later object)
  | imageRepository => rfl
  | machine => rfl

/-- A resource that owns nothing refuses to be written. -/
theorem writeTo_of_not_updatable {kind : Kind} (h : kind.isUpdatable = false) (desired : kind.Model)
    (object : Object) :
    kind.writeTo desired object = .error (updateUnsupported kind (Resource.name desired)) := by
  cases kind with
  | imageRepository => rfl
  | machine => rfl
  | pool => cases h
  | configMap => cases h
  | secret => cases h
  | node => cases h

theorem writeTo_lens (kind : Kind) (object : Object) (desired : kind.Model) :
    (kind.isUpdatable = true → ∃ written, kind.writeTo desired object = .ok written ∧
        kind.Untouched object written ∧
        (∀ old, kind.read object = .ok old → kind.read written = .ok (kind.overwrite desired old)) ∧
        ∀ later, kind.writeTo later written = kind.writeTo later object) ∧
      (kind.isUpdatable = false →
        kind.writeTo desired object = .error (updateUnsupported kind (Resource.name desired)) ∧
        ∀ name expected t o, (ApiStore.update kind name desired expected).run.Runs t o →
          (∃ e, o = .returned (.error e)) ∧ ∀ event ∈ t, ApiStore.Quiet event) := by
  constructor
  · intro hupdatable
    obtain ⟨written, hwritten, huntouched⟩ := exists_writeTo hupdatable desired object
    exact ⟨written, hwritten, huntouched, fun old hold => read_of_writeTo hwritten hold,
      fun later => writeTo_writeTo hwritten later⟩
  · intro hfixed
    refine ⟨writeTo_of_not_updatable hfixed desired object, ?_⟩
    intro name expected t o hruns
    rcases ApiStore.runs_update hruns with
      ⟨e, rfl, hquiet⟩ | ⟨_, _, _, live, written, _, _, _, _, _, _, hwritten, _⟩
    · exact ⟨⟨e, rfl⟩, hquiet⟩
    · -- A replacement would have been written by the resource.
      rw [writeTo_of_not_updatable hfixed desired live] at hwritten
      cases hwritten

/-- A live secret with a part that no trial knows of, and the refusal for the repository. -/
theorem writeTo_lens_token :
    let live : Object :=
      { type := some ⟨"v1", "Secret"⟩, metadata := { name := some "pull" }
        content := [("immutable", .bool true), ("type", .string "Opaque")] }
    let token : Secret :=
      { name := "token", type := "token", data := (∅ : StringMap (List UInt8)).insert "key" [1, 2] }
    (∃ written, Kind.writeTo .secret token live = .ok written ∧
      Kind.read .secret written = .ok { token with name := "pull" }) ∧
    Kind.writeTo .imageRepository { name := "images" } live =
      .error (updateUnsupported .imageRepository "images") := by
  intro live token
  constructor
  · obtain ⟨written, hwritten, -, hread, -⟩ := (writeTo_lens .secret live token).1 rfl
    exact ⟨written, hwritten, hread { name := "pull", type := "Opaque" } rfl⟩
  · exact ((writeTo_lens .imageRepository live { name := "images" }).2 rfl).1

/-! ## Creation -/

/-- A resource without what only the controllers report. -/
def asCreated : (kind : Kind) → kind.Model → kind.Model
  | .pool => fun (pool : Pool) => { pool with state := .idle, image := none, rendered := none }
  | .configMap => fun (map : ConfigMap) => map
  | .secret => fun (secret : Secret) => secret
  | .imageRepository => fun (repository : ImageRepository) => { repository with repository := none }
  | .node => fun (node : Node) => { node with image := none, state := none, machine := none }
  | .machine => fun (machine : Machine) => machine

theorem read_toObject (kind : Kind) (resource : kind.Model) :
    kind.read (kind.toObject resource) = .ok (kind.asCreated resource) := by
  cases kind with
  | pool => rfl
  | configMap =>
    have hformed := isWellFormed_newObject .configMap configMapFields (ConfigMap.name resource)
    exact readConfigMap_writeConfigMap hformed resource
  | secret =>
    have hformed := isWellFormed_newObject .secret secretFields (Secret.name resource)
    exact readSecret_writeSecret hformed resource
  | imageRepository => rfl
  | node => rfl
  | machine => rfl

end Kind

end BuildTrial
