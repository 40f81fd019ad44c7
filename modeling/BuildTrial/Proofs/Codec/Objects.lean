import Mathlib.Data.List.Forall2
import BuildTrial.Yaml.Form
import BuildTrial.Proofs.Api.NormalForm

/-!
# Objects in any notation

Records are read in the same way from every notation, so what can be said about missing and unknown keys
does not depend on one. All that counts is that a value is an object with certain fields (`IsObject`): any
record that knows their keys finds these fields, and any other refuses the value. An object may be written
again without some of its keys (`Reduces`), and then these keys are missing and all other values are what
became of those before.
-/

namespace BuildTrial

namespace DataForm

variable {V α : Type} {n : DataForm V} {value whole rest : V} {fields kept : List (String × V)}
  {keys dropped : List String} {key : String} {inside : String → V → V → Prop}

/-! ## Looking up keys -/

theorem lookup_filter_of_mem (h : key ∈ dropped) (fields : List (String × V)) :
    (fields.filter (·.1 ∉ dropped)).lookup key = none := by
  rw [List.lookup_eq_none_iff]
  intro field hfield
  rw [List.mem_filter, decide_eq_true_eq] at hfield
  rw [bne_iff_ne]
  rintro rfl
  exact hfield.2 h

theorem lookup_filter_of_not_mem (h : key ∉ dropped) (fields : List (String × V)) :
    (fields.filter (·.1 ∉ dropped)).lookup key = fields.lookup key := by
  induction fields with
  | nil => rfl
  | cons field fields ih =>
    rw [List.filter_cons]
    split
    · rw [List.lookup_cons, List.lookup_cons, ih]
    · rename_i hdropped
      have hne : (key == field.1) = false := by
        rw [beq_eq_false_iff_ne]
        rintro rfl
        exact hdropped (by simpa using h)
      rw [List.lookup_cons, hne, ih]

theorem lookup_of_forall₂
    (h : List.Forall₂ (fun field left => left.1 = field.1 ∧ inside field.1 field.2 left.2) fields kept)
    (key : String) : Option.Rel (inside key) (fields.lookup key) (kept.lookup key) := by
  induction h with
  | nil => exact .none
  | cons hfield _ ih =>
    obtain ⟨hkey, hvalue⟩ := hfield
    rw [List.lookup_cons, List.lookup_cons, hkey]
    split
    · rename_i heq
      obtain rfl := beq_iff_eq.mp heq
      exact .some hvalue
    · exact ih

theorem map_fst_of_forall₂
    (h : List.Forall₂ (fun field left => left.1 = field.1 ∧ inside field.1 field.2 left.2) fields kept) :
    kept.map Prod.fst = fields.map Prod.fst := by
  induction h with
  | nil => rfl
  | cons hfield _ ih => rw [List.map_cons, List.map_cons, hfield.1, ih]

/-- Fields with different keys may be looked up in any order. -/
theorem lookup_eq_of_perm {others : List (String × V)} (h : fields.Perm others)
    (hnodup : (fields.map Prod.fst).Nodup) : fields.lookup key = others.lookup key := by
  induction h with
  | nil => rfl
  | cons field _ ih =>
    rw [List.lookup_cons, List.lookup_cons, ih (List.nodup_cons.mp hnodup).2]
  | swap field other rest =>
    rw [List.lookup_cons, List.lookup_cons, List.lookup_cons, List.lookup_cons]
    split <;> split <;> simp_all
  | trans hfirst _ ihfirst ihsecond =>
    rw [ihfirst hnodup, ihsecond ((hfirst.map Prod.fst).nodup_iff.mp hnodup)]

/-! ## Objects -/

/-- A record with all the keys finds the fields, and a record without one of them refuses the value. -/
def IsObject (n : DataForm V) (value : V) (fields : List (String × V)) : Prop :=
  ∀ keys, n.fields? keys value = if ∀ field ∈ fields, field.1 ∈ keys then some fields else none

theorem IsObject.eq_of_fields?_eq_some (h : n.IsObject value fields)
    {found : List (String × V)} (hfound : n.fields? keys value = some found) :
    found = fields ∧ ∀ field ∈ fields, field.1 ∈ keys := by
  rw [h keys] at hfound
  split at hfound
  · rename_i hknown
    exact ⟨(Option.some.inj hfound).symm, hknown⟩
  · cases hfound

/-- What is left of an object without some of its keys. The values under the other keys may have changed
too, each in the way that is allowed inside of its key. -/
def Reduces (n : DataForm V) (dropped : List String) (inside : String → V → V → Prop)
    (whole rest : V) : Prop :=
  ∃ fields kept, n.IsObject whole fields ∧ n.IsObject rest kept ∧
    List.Forall₂ (fun field left => left.1 = field.1 ∧ inside field.1 field.2 left.2)
      (fields.filter (·.1 ∉ dropped)) kept

/-- What is left of a value without some of its keys, and with nothing else changed. A value that is no
object is left as it is if no key is left out. -/
def Without (n : DataForm V) (dropped : List String) (whole rest : V) : Prop :=
  dropped = [] ∧ whole = rest ∨ n.Reduces dropped (fun _ => Eq) whole rest

/-- What fields turn into when some keys are left out: these are gone, and under every other key is what
became of the value there. -/
structure Kept (dropped : List String) (inside : String → V → V → Prop)
    (fields kept : List (String × V)) : Prop where
  gone : ∀ key ∈ dropped, kept.lookup key = none
  others : ∀ key ∉ dropped, Option.Rel (inside key) (fields.lookup key) (kept.lookup key)

/-- A record that reads an object also reads what is left of it. -/
theorem Reduces.exists_kept (h : n.Reduces dropped inside whole rest)
    (hfields : n.fields? keys whole = some fields) :
    ∃ kept, n.fields? keys rest = some kept ∧ Kept dropped inside fields kept := by
  obtain ⟨written, kept, hwhole, hrest, hkept⟩ := h
  obtain ⟨rfl, hknown⟩ := hwhole.eq_of_fields?_eq_some hfields
  refine ⟨kept, ?_, fun key hkey => ?_, fun key hkey => ?_⟩
  · rw [hrest keys, if_pos]
    intro left hleft
    have hkey : left.1 ∈ kept.map Prod.fst := List.mem_map_of_mem hleft
    rw [map_fst_of_forall₂ hkept] at hkey
    obtain ⟨field, hfield, hname⟩ := List.mem_map.mp hkey
    rw [← hname]
    exact hknown field (List.mem_of_mem_filter hfield)
  · have hlookup := lookup_of_forall₂ hkept key
    rw [lookup_filter_of_mem hkey] at hlookup
    generalize kept.lookup key = left at hlookup ⊢
    cases hlookup
    rfl
  · rw [← lookup_filter_of_not_mem hkey]
    exact lookup_of_forall₂ hkept key

/-! ## Reading a key -/

section Reading

variable {preset a : α} {read : V → Option α}

/-- What is read under a key with a default: the default if the key was left out, and otherwise what
became of the value. -/
theorem Kept.withDefault (h : Kept dropped inside fields kept) (edit : α → α)
    (hpreset : edit preset = preset)
    (hread : key ∉ dropped → ∀ whole rest, inside key whole rest → read whole = some a →
      read rest = some (edit a))
    (hfields : DataForm.withDefault fields key preset read = some a) :
    DataForm.withDefault kept key preset read =
      some (if key ∈ dropped then preset else edit a) := by
  unfold DataForm.withDefault at hfields ⊢
  split_ifs with hkey
  · rw [h.gone key hkey]
  · have hrel := h.others key hkey
    generalize fields.lookup key = found at hfields hrel
    generalize kept.lookup key = left at hrel ⊢
    cases hrel with
    | none =>
      obtain rfl := Option.some.inj hfields
      exact congrArg some hpreset.symm
    | some hinside => exact hread hkey _ _ hinside hfields

/-- A key whose value stays as it is. -/
theorem Kept.withDefault_same (h : Kept dropped inside fields kept)
    (hinside : ∀ whole rest, inside key whole rest → whole = rest)
    (hfields : DataForm.withDefault fields key preset read = some a) :
    DataForm.withDefault kept key preset read = some (if key ∈ dropped then preset else a) := by
  refine h.withDefault id rfl (fun _ whole rest hvalue hread => ?_) hfields
  rw [← hinside whole rest hvalue]
  exact hread

/-- A key that has to be there was not left out if it is read. -/
theorem Kept.not_mem_of_required (h : Kept dropped inside fields kept)
    (hread : DataForm.required kept key read = some a) : key ∉ dropped := by
  intro hkey
  rw [DataForm.required, h.gone key hkey] at hread
  cases hread

theorem Kept.required_same (h : Kept dropped inside fields kept) (hkey : key ∉ dropped)
    (hinside : ∀ whole rest, inside key whole rest → whole = rest) :
    DataForm.required kept key read = DataForm.required fields key read := by
  have hrel := h.others key hkey
  unfold DataForm.required
  generalize fields.lookup key = found at hrel ⊢
  generalize kept.lookup key = left at hrel ⊢
  cases hrel with
  | none => rfl
  | some hvalue => rw [hinside _ _ hvalue]

end Reading

end DataForm

/-! ## Two notations -/

namespace Json

theorem isObject_object (fields : Fields) : dataForm.IsObject (.object fields) fields := by
  intro keys
  refine if_congr ?_ rfl rfl
  simp

/-- Fields with different keys are written in another order and found under the same keys. -/
theorem lookup_orderedFields {fields : Fields} (hnodup : (fields.map Prod.fst).Nodup) (key : String) :
    (orderedFields fields).lookup key = fields.lookup key :=
  (DataForm.lookup_eq_of_perm (orderedFields_perm hnodup).symm hnodup).symm

end Json

namespace Yaml

theorem isObject_of_entries {anchors : Node.Anchors} {node : Node} {fields : List (String × Node)}
    (hentries : node.entries? anchors = some fields) (hdistinct : Node.distinctKeys fields = true) :
    (dataForm anchors).IsObject node fields := by
  intro keys
  have hfields : (dataForm anchors).fields? keys node = (some fields).filter fun fields =>
      fields.all (keys.contains ·.1) && Node.distinctKeys fields := by
    rw [← hentries]
    rfl
  rw [hfields, Option.filter, hdistinct, Bool.and_true]
  refine if_congr ?_ rfl rfl
  simp

end Yaml

end BuildTrial
