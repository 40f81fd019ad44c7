import BuildTrial.Api.Representation
import BuildTrial.Proofs.Text.Base64

/-!
# The content of objects

What a resource writes into an object it reads back from it: entries of text as they are
(`textMap?_ofStringMap`) and entries of bytes through base64 (`secretData_of_encodedData`), and both have
the shapes that a typed object asks for. The rest is about the place where they are written. Setting a
field changes that field only, and of two settings of one field the later counts.
-/

namespace BuildTrial

theorem StringMap.ofList_toList {β : Type} (map : StringMap β) :
    Std.ExtTreeMap.ofList map.toList compare = map := by
  apply Std.ExtTreeMap.ext_getElem?
  intro key
  have hdistinct := map.distinct_keys_toList
  cases hvalue : map[key]? with
  | some value =>
    have hmem : (key, value) ∈ map.toList := Std.ExtTreeMap.mem_toList_iff_getElem?_eq_some.mpr hvalue
    exact Std.ExtTreeMap.getElem?_ofList_of_mem Std.ReflCmp.compare_self hdistinct hmem
  | none =>
    apply Std.ExtTreeMap.getElem?_ofList_of_contains_eq_false
    rw [Std.ExtTreeMap.map_fst_toList_eq_keys, List.contains_eq_mem, decide_eq_false_iff_not,
      Std.ExtTreeMap.mem_keys]
    intro hmem
    rw [Std.ExtTreeMap.getElem?_eq_some_getElem hmem] at hvalue
    cases hvalue

/-! ## Fields -/

namespace Json

variable {key other : String}

theorem lookup_setField_self (key : String) (value : Json) (fields : Fields) :
    (setField key value fields).lookup key = some value := by
  induction fields with
  | nil => simp [setField]
  | cons field rest ih =>
    obtain ⟨name, old⟩ := field
    rw [setField]
    cases hcompare : compare key name with
    | lt => simp
    | eq => simp
    | gt =>
      have hne : (key == name) = false := by
        rw [beq_eq_false_iff_ne]
        rintro rfl
        simp at hcompare
      simp only [List.lookup_cons, hne]
      exact ih

theorem lookup_setField_of_ne (h : other ≠ key) (value : Json) (fields : Fields) :
    (setField key value fields).lookup other = fields.lookup other := by
  have hne : (other == key) = false := beq_eq_false_iff_ne.mpr h
  induction fields with
  | nil => simp only [setField, List.lookup_cons, hne]
  | cons field rest ih =>
    obtain ⟨name, old⟩ := field
    rw [setField]
    cases hcompare : compare key name with
    | lt => simp only [List.lookup_cons, hne]
    | eq =>
      obtain rfl := Std.LawfulEqCmp.eq_of_compare hcompare
      simp only [List.lookup_cons, hne]
    | gt => simp only [List.lookup_cons, ih]

/-- All fields with other keys stay, in their order. -/
theorem filter_setField {p : String × Json → Bool} (hp : ∀ value, p (key, value) = false)
    (value : Json) (fields : Fields) : (setField key value fields).filter p = fields.filter p := by
  induction fields with
  | nil => simp [setField, hp]
  | cons field rest ih =>
    obtain ⟨name, old⟩ := field
    rw [setField]
    cases hcompare : compare key name with
    | lt => simp [hp]
    | eq =>
      obtain rfl := Std.LawfulEqCmp.eq_of_compare hcompare
      simp [hp]
    | gt => simp [List.filter_cons, ih]

theorem setField_setField (key : String) (value value' : Json) (fields : Fields) :
    setField key value' (setField key value fields) = setField key value' fields := by
  induction fields with
  | nil => simp [setField]
  | cons field rest ih =>
    cases hcompare : compare key field.1 with
    | lt => simp [setField, hcompare]
    | eq => simp [setField, hcompare]
    | gt => simp [setField, hcompare, ih]

/-- The lesser key finds its place no later than the greater one, which passes over it. -/
theorem setField_comm_of_lt (h : compare key other = .lt) (value value' : Json) (fields : Fields) :
    setField key value (setField other value' fields) =
      setField other value' (setField key value fields) := by
  have hgt : compare other key = .gt := Std.OrientedCmp.gt_of_lt h
  induction fields with
  | nil => simp [setField, h, hgt]
  | cons field rest ih =>
    cases hother : compare other field.1 with
    | lt =>
      have hkey : compare key field.1 = .lt := Std.TransCmp.lt_trans h hother
      simp [setField, h, hgt, hother, hkey]
    | eq =>
      obtain rfl := Std.LawfulEqCmp.eq_of_compare hother
      simp [setField, h, hgt]
    | gt =>
      cases hkey : compare key field.1 with
      | lt => simp [setField, hgt, hother, hkey]
      | eq => simp [setField, hgt, hother, hkey]
      | gt => simp [setField, hother, hkey, ih]

theorem setField_comm (h : key ≠ other) (value value' : Json) (fields : Fields) :
    setField key value (setField other value' fields) =
      setField other value' (setField key value fields) := by
  cases hcompare : compare key other with
  | lt => exact setField_comm_of_lt hcompare value value' fields
  | eq => exact absurd (Std.LawfulEqCmp.eq_of_compare hcompare) h
  | gt => exact (setField_comm_of_lt (Std.OrientedCmp.lt_of_gt hcompare) value' value fields).symm

end Json

namespace Api

/-! ## Entries -/

theorem Metadata.textMap?_ofStringMap (map : StringMap String) :
    Metadata.textMap? (.ofStringMap map) = some map := by
  rw [Metadata.textMap?, Json.ofStringMap, Json.fields?, Option.bind_eq_bind, Option.bind_some,
    List.mapM_map]
  -- Text that is written as a value is read as itself, so nothing happens to the entries.
  change (map.toList.mapM (m := Option) fun entry => pure (id entry)).bind
    (fun entries => some (.ofList entries)) = some map
  rw [List.mapM_pure, List.map_id]
  exact congrArg some (StringMap.ofList_toList map)

theorem entryBytes_encode (bytes : List UInt8) :
    entryBytes (.string (String.ofList (Text.Base64.encode bytes))) = bytes := by
  simp [entryBytes, Json.string?, Text.Base64.decode?_encode]

theorem secretData_of_encodedData {object : Object} {data : StringMap (List UInt8)}
    (h : object.get? "data" = some (encodedData data)) : secretData object = data := by
  simp only [secretData, h, Option.bind_some, encodedData, Json.fields?, Option.getD_some, List.map_map]
  rw [List.map_id'']
  · exact StringMap.ofList_toList data
  · intro entry
    exact Prod.ext rfl (entryBytes_encode entry.2)

/-! ## Shapes -/

theorem Shape.named?_ofFields (fields : Json.Fields) :
    named? (Written.ofFields fields) = some (fields.map fun (key, value) => (key, .ofJson value)) := by
  induction fields with
  | nil => rfl
  | cons field rest ih =>
    rw [named?] at ih
    simp [named?, Written.ofFields, List.mapM_cons, ih]

theorem Shape.isSome_mapM {α β : Type} {f : α → Option β} {l : List α} (h : ∀ a ∈ l, (f a).isSome) :
    (l.mapM f).isSome := by
  induction l with
  | nil => rfl
  | cons a rest ih =>
    obtain ⟨ha, hrest⟩ := List.forall_mem_cons.mp h
    obtain ⟨b, hb⟩ := Option.isSome_iff_exists.mp ha
    obtain ⟨bs, hbs⟩ := Option.isSome_iff_exists.mp (ih hrest)
    simp [List.mapM_cons, hb, hbs]

/-- An object is a map to documents of a shape if each of its values has the shape. -/
theorem Shape.isSome_mapOf {shape : Shape} {room : Nat} {fields : Json.Fields}
    (h : ∀ field ∈ fields, (shape room (.ofJson field.2)).isSome) :
    (mapOf shape (room + 1) (.ofJson (.object fields))).isSome := by
  rw [Written.ofJson, mapOf, named?_ofFields, Option.bind_eq_bind, Option.bind_some, List.mapM_map]
  change (Option.bind (fields.mapM fun (field : String × Json) => do
    return (field.1, ← shape room (.ofJson field.2))) (some ∘ Json.ofFields)).isSome
  rw [← Option.map_eq_bind, Option.isSome_map]
  apply isSome_mapM
  intro field hfield
  obtain ⟨value, hvalue⟩ := Option.isSome_iff_exists.mp (h field hfield)
  simp [hvalue]

theorem isSome_text_ofStringMap (map : StringMap String) :
    (Shape.mapOf .text Json.maxDepth (.ofJson (.ofStringMap map))).isSome := by
  apply Shape.isSome_mapOf
  intro field hfield
  obtain ⟨entry, -, rfl⟩ := List.mem_map.mp hfield
  rfl

theorem isSome_bytes_encodedData (data : StringMap (List UInt8)) :
    (Shape.mapOf .bytes Json.maxDepth (.ofJson (encodedData data))).isSome := by
  apply Shape.isSome_mapOf
  intro field hfield
  obtain ⟨entry, -, rfl⟩ := List.mem_map.mp hfield
  simp [Shape.bytes, Shape.scalar, Written.ofJson, Text.Base64.decode?_encode]

end Api

end BuildTrial
