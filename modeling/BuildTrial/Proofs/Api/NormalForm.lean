import BuildTrial.Api.Object

/-!
# Objects in normal form

A document can be written in many ways, and an `Object` keeps one of them: its parts in the order of
their keys, each once, and nothing that has a field of its own among the others. The document of such
an object tells all of it (`Object.toJson_inj`), so whoever is sent the document is sent the object.
Labels and versions may be overwritten without leaving the normal form.
-/

namespace BuildTrial

namespace Json

/-- The fields are in the order of their keys, no key twice. -/
def Ordered (fields : Fields) : Prop := fields.Pairwise fun a b => compare a.1 b.1 = .lt

theorem Ordered.nodup_keys {fields : Fields} (h : Ordered fields) :
    (fields.map Prod.fst).Nodup := by
  rw [List.Nodup, List.pairwise_map]
  refine h.imp fun {a b} hlt heq => ?_
  rw [heq, Std.ReflOrd.compare_self] at hlt
  cases hlt

/-- Fields in order are determined by what fields there are. -/
theorem Ordered.eq_of_perm {a b : Fields} (ha : Ordered a) (hb : Ordered b) (h : a.Perm b) :
    a = b := by
  refine h.eq_of_pairwise (fun x y _ _ hxy hyx => ?_) ha hb
  rw [Std.OrientedOrd.eq_swap, hyx] at hxy
  cases hxy

theorem setField_perm {key : String} {fields : Fields} (value : Json)
    (hnew : key ∉ fields.map Prod.fst) :
    (setField key value fields).Perm ((key, value) :: fields) := by
  induction fields with
  | nil => exact .refl _
  | cons field rest ih =>
    rw [List.map_cons, List.mem_cons, not_or] at hnew
    rw [setField]
    split
    · exact .refl _
    · rename_i heq
      exact absurd (Std.LawfulEqCmp.eq_of_compare heq) hnew.1
    · exact ((ih hnew.2).cons field).trans (.swap _ _ _)

theorem foldl_setField_perm {fields ordered : Fields}
    (hnodup : ((ordered ++ fields).map Prod.fst).Nodup) :
    (fields.foldl (fun ordered field => setField field.1 field.2 ordered) ordered).Perm
      (ordered ++ fields) := by
  induction fields generalizing ordered with
  | nil => simp
  | cons field rest ih =>
    have hmiddle : (ordered ++ field :: rest).Perm (field :: ordered ++ rest) := List.perm_middle
    have hset : (setField field.1 field.2 ordered ++ rest).Perm (ordered ++ field :: rest) := by
      refine .trans ?_ hmiddle.symm
      refine (setField_perm field.2 fun hmem => ?_).append_right rest
      rw [(hmiddle.map Prod.fst).nodup_iff, List.cons_append, List.map_cons, List.nodup_cons,
        List.map_append, List.mem_append] at hnodup
      exact hnodup.1 (.inl hmem)
    exact (ih ((hset.map Prod.fst).nodup_iff.mpr hnodup)).trans hset

/-- Fields with different keys are put in order, and nothing else is done to them. -/
theorem orderedFields_perm {fields : Fields} (hnodup : (fields.map Prod.fst).Nodup) :
    (orderedFields fields).Perm fields :=
  foldl_setField_perm hnodup

theorem perm_of_ofFields_eq {a b : Fields} (ha : (a.map Prod.fst).Nodup)
    (hb : (b.map Prod.fst).Nodup) (h : ofFields a = ofFields b) : a.Perm b :=
  (orderedFields_perm ha).symm.trans (Json.object.inj h ▸ orderedFields_perm hb)

theorem ofStringMap_inj {a b : StringMap String} (h : ofStringMap a = ofStringMap b) : a = b := by
  refine Std.ExtTreeMap.toList_inj.mp (List.map_inj_right ?_ |>.mp (Json.object.inj h))
  rintro ⟨k, v⟩ ⟨k', v'⟩ heq
  obtain ⟨rfl, hv⟩ := Prod.mk.inj heq
  rw [Json.string.inj hv]

end Json

open Json

namespace Api

/-! ## Metadata -/

namespace Metadata

section

variable {α : Type} {key : String} {write : α → Json} {value a b : Option α}

theorem keys_field_sublist : ((field key write value).map Prod.fst).Sublist [key] := by
  cases value with
  | none => exact List.nil_sublist _
  | some v => exact List.Sublist.refl _

theorem filter_field (p : String → Prop) [DecidablePred p] :
    (field key write value).filter (fun f => p f.1) =
      if p key then field key write value else [] := by
  cases value with
  | none => simp [field]
  | some v => simp [field, List.filter_cons]

/-- A field tells its value. -/
theorem field_inj (hwrite : ∀ x y, write x = write y → x = y)
    (h : (field key write a).Perm (field key write b)) : a = b := by
  cases a <;> cases b <;> simp [field] at h ⊢
  exact hwrite _ _ h

end

/-- Metadata whose other fields are in order, and have no field of their own. -/
structure Normal (m : Metadata) : Prop where
  others_ordered : Ordered m.others
  others_keys : ∀ field ∈ m.others, field.1 ∉ ownKeys

/-- The fields of metadata as they are written, before they are put in order. -/
def fields (m : Metadata) : Fields :=
  field "name" .string m.name ++ field "resourceVersion" .string m.resourceVersion ++
    field "labels" .ofStringMap m.labels ++ field "annotations" .ofStringMap m.annotations ++
    m.others

/-- The field with one of the own keys, if it is there. -/
def own (m : Metadata) (key : String) : Fields :=
  (if "name" = key then field "name" .string m.name else []) ++
    (if "resourceVersion" = key then field "resourceVersion" .string m.resourceVersion else []) ++
    (if "labels" = key then field "labels" .ofStringMap m.labels else []) ++
    (if "annotations" = key then field "annotations" .ofStringMap m.annotations else [])

namespace Normal

variable {m m' : Metadata}

theorem nodup_fields (h : m.Normal) : (m.fields.map Prod.fst).Nodup := by
  have hsub : (m.fields.map Prod.fst).Sublist (ownKeys ++ m.others.map Prod.fst) := by
    simp only [fields, List.map_append]
    exact (((keys_field_sublist.append keys_field_sublist).append keys_field_sublist).append
      keys_field_sublist).append (.refl _)
  refine hsub.nodup (List.nodup_append.mpr ⟨by decide, h.others_ordered.nodup_keys, ?_⟩)
  rintro key hown _ hother rfl
  obtain ⟨field, hfield, rfl⟩ := List.mem_map.mp hother
  exact h.others_keys field hfield hown

theorem filter_others (h : m.Normal) {key : String} (hown : key ∈ ownKeys) :
    m.others.filter (fun f => f.1 = key) = [] := by
  refine List.filter_eq_nil_iff.mpr fun field hfield heq => ?_
  exact h.others_keys field hfield (of_decide_eq_true heq ▸ hown)

theorem filter_own (h : m.Normal) {key : String} (hown : key ∈ ownKeys) :
    m.fields.filter (fun f => f.1 = key) = m.own key := by
  simp only [fields, own, List.filter_append, filter_field (· = key), h.filter_others hown,
    List.append_nil]

theorem filter_not_own (h : m.Normal) :
    m.fields.filter (fun f => f.1 ∉ ownKeys) = m.others := by
  have hothers : m.others.filter (fun f => f.1 ∉ ownKeys) = m.others :=
    List.filter_eq_self.mpr fun field hfield => decide_eq_true (h.others_keys field hfield)
  simp only [fields, List.filter_append, filter_field (· ∉ ownKeys), hothers]
  simp [ownKeys]

/-- The document of metadata in normal form tells all of it. -/
theorem toJson_inj (h : m.Normal) (h' : m'.Normal) (heq : m.toJson = m'.toJson) : m = m' := by
  have hperm : m.fields.Perm m'.fields := perm_of_ofFields_eq h.nodup_fields h'.nodup_fields heq
  have hown : ∀ key ∈ ownKeys, (m.own key).Perm (m'.own key) := fun key hkey => by
    rw [← h.filter_own hkey, ← h'.filter_own hkey]
    exact hperm.filter _
  simp only [ownKeys, own, List.mem_cons, List.not_mem_nil, or_false, forall_eq_or_imp, forall_eq,
    List.append_assoc, List.nil_append, List.append_nil, ↓reduceIte, String.reduceEq] at hown
  obtain ⟨hname, hversion, hlabels, hannotations⟩ := hown
  have hothers : m.others = m'.others := by
    refine h.others_ordered.eq_of_perm h'.others_ordered ?_
    rw [← h.filter_not_own, ← h'.filter_not_own]
    exact hperm.filter _
  obtain ⟨name, version, labels, annotations, others⟩ := m
  obtain rfl := field_inj (fun _ _ => Json.string.inj) hname
  obtain rfl := field_inj (fun _ _ => Json.string.inj) hversion
  obtain rfl := field_inj (fun _ _ => ofStringMap_inj) hlabels
  obtain rfl := field_inj (fun _ _ => ofStringMap_inj) hannotations
  obtain rfl := hothers
  rfl

end Normal

end Metadata

/-! ## Objects -/

/-- A type that is known is known with both its parts. -/
theorem TypeName.ext_of_map {a b : Option TypeName}
    (hversion : a.map apiVersion = b.map apiVersion) (hkind : a.map kind = b.map kind) : a = b := by
  cases a with
  | none =>
    cases b with
    | none => rfl
    | some b => cases hversion
  | some a =>
    cases b with
    | none => cases hversion
    | some b =>
      obtain ⟨version, kind⟩ := a
      obtain rfl := Option.some.inj hversion
      obtain rfl := Option.some.inj hkind
      rfl

namespace Object

/-- The object with a version. -/
def withVersion (o : Object) (version : String) : Object :=
  { o with metadata := { o.metadata with resourceVersion := some version } }

@[simp] theorem version_withVersion (o : Object) (version : String) :
    (o.withVersion version).version = version := rfl

/-- The parts of an object that are not in its content. -/
def ownKeys : List String := ["apiVersion", "kind", "metadata"]

/-- An object whose parts are in order, and have no field of their own. -/
structure Normal (o : Object) : Prop where
  metadata : o.metadata.Normal
  content_ordered : Ordered o.content
  content_keys : ∀ field ∈ o.content, field.1 ∉ ownKeys

/-- The fields of an object as they are written, before they are put in order. -/
def fields (o : Object) : Fields :=
  Metadata.field "apiVersion" .string (o.type.map TypeName.apiVersion) ++
    Metadata.field "kind" .string (o.type.map TypeName.kind) ++
    ("metadata", o.metadata.toJson) :: o.content

/-- The field with one of the own keys, if it is there. -/
def own (o : Object) (key : String) : Fields :=
  (if "apiVersion" = key then
      Metadata.field "apiVersion" .string (o.type.map TypeName.apiVersion) else []) ++
    (if "kind" = key then Metadata.field "kind" .string (o.type.map TypeName.kind) else []) ++
    (if "metadata" = key then [("metadata", o.metadata.toJson)] else [])

namespace Normal

variable {o o' : Object}

theorem nodup_fields (h : o.Normal) : (o.fields.map Prod.fst).Nodup := by
  have hsub : (o.fields.map Prod.fst).Sublist (ownKeys ++ o.content.map Prod.fst) := by
    simp only [fields, List.map_append, List.map_cons]
    exact (Metadata.keys_field_sublist.append Metadata.keys_field_sublist).append
      (.refl ("metadata" :: _))
  refine hsub.nodup (List.nodup_append.mpr ⟨by decide, h.content_ordered.nodup_keys, ?_⟩)
  rintro key hown _ hother rfl
  obtain ⟨field, hfield, rfl⟩ := List.mem_map.mp hother
  exact h.content_keys field hfield hown

theorem filter_content (h : o.Normal) {key : String} (hown : key ∈ ownKeys) :
    o.content.filter (fun f => f.1 = key) = [] := by
  refine List.filter_eq_nil_iff.mpr fun field hfield heq => ?_
  exact h.content_keys field hfield (of_decide_eq_true heq ▸ hown)

theorem filter_own (h : o.Normal) {key : String} (hown : key ∈ ownKeys) :
    o.fields.filter (fun f => f.1 = key) = o.own key := by
  rw [fields, List.filter_append, List.filter_append, Metadata.filter_field (· = key),
    Metadata.filter_field (· = key), List.filter_cons, h.filter_content hown, own]
  simp only [decide_eq_true_eq]

theorem filter_not_own (h : o.Normal) :
    o.fields.filter (fun f => f.1 ∉ ownKeys) = o.content := by
  have hcontent : o.content.filter (fun f => f.1 ∉ ownKeys) = o.content :=
    List.filter_eq_self.mpr fun field hfield => decide_eq_true (h.content_keys field hfield)
  rw [fields, List.filter_append, List.filter_append, Metadata.filter_field (· ∉ ownKeys),
    Metadata.filter_field (· ∉ ownKeys), List.filter_cons, hcontent]
  simp [ownKeys]

/-- The document of an object in normal form tells all of it. -/
theorem toJson_inj (h : o.Normal) (h' : o'.Normal) (heq : o.toJson = o'.toJson) : o = o' := by
  have hperm : o.fields.Perm o'.fields := perm_of_ofFields_eq h.nodup_fields h'.nodup_fields heq
  -- the own keys tell the version, the kind and the metadata apart from all other fields
  have hown : ∀ key ∈ ownKeys, (o.own key).Perm (o'.own key) := fun key hkey => by
    rw [← h.filter_own hkey, ← h'.filter_own hkey]
    exact hperm.filter _
  simp only [ownKeys, own, List.mem_cons, List.not_mem_nil, or_false, forall_eq_or_imp, forall_eq,
    List.append_assoc, List.nil_append, List.append_nil, ↓reduceIte, String.reduceEq,
    List.perm_singleton, List.cons.injEq, Prod.mk.injEq, true_and, and_true] at hown
  obtain ⟨hversion, hkind, hmetadata⟩ := hown
  have hcontent : o.content = o'.content := by
    refine h.content_ordered.eq_of_perm h'.content_ordered ?_
    rw [← h.filter_not_own, ← h'.filter_not_own]
    exact hperm.filter _
  have htype : o.type = o'.type := by
    have hversion := Metadata.field_inj (fun _ _ => Json.string.inj) hversion
    have hkind := Metadata.field_inj (fun _ _ => Json.string.inj) hkind
    exact TypeName.ext_of_map hversion hkind
  have hmetadata := h.metadata.toJson_inj h'.metadata hmetadata
  obtain ⟨type, metadata, content⟩ := o
  obtain rfl := htype
  obtain rfl := hmetadata
  obtain rfl := hcontent
  rfl

theorem setLabels (h : o.Normal) (labels : StringMap String) : (o.setLabels labels).Normal :=
  ⟨⟨h.metadata.others_ordered, h.metadata.others_keys⟩, h.content_ordered, h.content_keys⟩

theorem withVersion (h : o.Normal) (version : String) : (o.withVersion version).Normal :=
  ⟨⟨h.metadata.others_ordered, h.metadata.others_keys⟩, h.content_ordered, h.content_keys⟩

end Normal

end Object

end Api

end BuildTrial
