import BuildTrial.BuildConfiguration
import BuildTrial.Proofs.Scenario.Demands

/-!
# Build configurations and the maps that hold them

A configuration map holds a build configuration if it has a value under each of the four recognized keys
and the builder is known. `demands` lists this in the order in which it is looked at, and reading a map
goes through that list (`judged_ofConfigMap`). What is read is what the map has under the four keys, so
writing it gives that part of the map back. `ofConfigMap_exact` puts this together.
-/

namespace BuildTrial

theorem exists_of_bind_eq_ok {ε α β : Type} {x : Except ε α} {f : α → Except ε β} {b : β}
    (h : x >>= f = .ok b) : ∃ a, x = .ok a ∧ f a = .ok b := by
  cases x with
  | error e => cases h
  | ok a => exact ⟨a, rfl, h⟩

theorem BuilderType.ofText_text (b : BuilderType) : BuilderType.ofText b.text = .ok b := by
  cases b <;> rfl

theorem BuilderType.text_ne_empty (b : BuilderType) : b.text ≠ "" := by
  cases b <;> decide

theorem BuilderType.eq_text_of_ofText {s : String} {b : BuilderType} (h : ofText s = .ok b) :
    s = b.text := by
  unfold ofText at h
  split at h
  · rename_i builder hfound
    have hbuilder : builder = b := Except.ok.inj h
    have htext : builder.text = s := by simpa using List.find?_some hfound
    rw [← hbuilder, htext]
  · cases h

theorem BuilderType.ofText_of_unknown {s : String} (h : ∀ b : BuilderType, s ≠ b.text) :
    ofText s = .error (.invalid BuildConfiguration.builderTypeKey
      s!"unknown builder type {Text.quoted s}") := by
  unfold ofText
  split
  · rename_i builder hfound
    have htext : builder.text = s := by simpa using List.find?_some hfound
    exact absurd htext.symm (h builder)
  · rfl

namespace BuildConfiguration

variable {map : ConfigMap} {c : BuildConfiguration} {key value : String}

/-! ## What is written -/

/-- The keys of a build configuration, in the order in which they are read. -/
def recognizedKeys : List String :=
  [builderTypeKey, basePullSecretKey, finalPushSecretKey, finalPullspecKey]

/-- The values of a build configuration under their keys. -/
def entries (c : BuildConfiguration) : List (String × String) :=
  [(builderTypeKey, c.builderType.text), (basePullSecretKey, c.basePullSecret),
    (finalPushSecretKey, c.finalPushSecret), (finalPullspecKey, c.finalPullspec)]

theorem getElem?_toConfigMap_of_mem (h : (key, value) ∈ c.entries) :
    c.toConfigMap.data[key]? = some value := by
  have hkeys : c.entries.Pairwise fun a b => ¬compare a.1 b.1 = .eq := by
    simp [entries, builderTypeKey, basePullSecretKey, finalPushSecretKey, finalPullspecKey]
  exact Std.ExtTreeMap.getElem?_ofList_of_mem Std.ReflCmp.compare_self hkeys h

theorem getElem?_toConfigMap_of_not_mem (h : key ∉ recognizedKeys) :
    c.toConfigMap.data[key]? = none := by
  apply Std.ExtTreeMap.getElem?_ofList_of_contains_eq_false
  rw [List.contains_eq_mem, decide_eq_false_iff_not]
  exact h

/-- The part of a map that a build configuration is about. -/
def restricted (map : ConfigMap) : ConfigMap :=
  ⟨mapName, map.data.filter fun key _ => key ∈ recognizedKeys⟩

theorem toConfigMap_eq_restricted_iff : c.toConfigMap = restricted map ↔
    ∀ key value, (key, value) ∈ c.entries → map.data[key]? = some value := by
  have hfilter : ∀ key, (restricted map).data[key]? =
      if key ∈ recognizedKeys then map.data[key]? else none := by
    intro key
    rw [restricted, Std.ExtTreeMap.getElem?_filter']
    by_cases hkey : key ∈ recognizedKeys
    · rw [if_pos hkey]
      cases map.data[key]? <;> simp [hkey]
    · rw [if_neg hkey]
      cases map.data[key]? <;> simp [hkey]
  constructor
  · intro h key value hmem
    have hkey : key ∈ recognizedKeys := List.mem_map_of_mem (f := Prod.fst) hmem
    have hwritten := getElem?_toConfigMap_of_mem hmem
    rwa [h, hfilter, if_pos hkey] at hwritten
  · intro h
    -- off the recognized keys both maps are empty
    have hdata : c.toConfigMap.data = (restricted map).data := by
      refine Std.ExtTreeMap.ext_getElem? fun key => ?_
      rw [hfilter]
      by_cases hkey : key ∈ recognizedKeys
      · have hmem : key ∈ c.entries.map Prod.fst := hkey
        obtain ⟨⟨_, value⟩, hentry, rfl⟩ := List.mem_map.mp hmem
        rw [if_pos hkey, getElem?_toConfigMap_of_mem hentry, h _ _ hentry]
      · rw [if_neg hkey, getElem?_toConfigMap_of_not_mem hkey]
    exact congrArg (ConfigMap.mk mapName) hdata

/-! ## What is read -/

/-- The error about a key without a value. -/
def missing (name key : String) : Error :=
  .invalid key s!"ConfigMap {name} is missing required key {key}"

theorem requiredValue_eq_ok_iff :
    requiredValue map key = .ok value ↔ map.data[key]? = some value ∧ value ≠ "" := by
  unfold requiredValue
  cases map.data[key]? with
  | none => simp
  | some found =>
    by_cases hempty : found = ""
    · simp only [hempty, if_true, Option.some.injEq, reduceCtorEq, false_iff]
      rintro ⟨rfl, hvalue⟩
      exact hvalue rfl
    · simp only [hempty, if_false, Except.ok.injEq, Option.some.injEq]
      refine ⟨?_, And.left⟩
      rintro rfl
      exact ⟨rfl, hempty⟩

theorem requiredValue_of_unfilled (h : ∀ value, map.data[key]? = some value → value = "") :
    requiredValue map key = .error (missing map.name key) := by
  unfold requiredValue
  split
  · rename_i value hvalue
    exact if_pos (h value hvalue)
  · rfl

/-- What is read is what the map has under the keys. -/
theorem ofConfigMap_eq_ok_iff : ofConfigMap map = .ok c ↔
    ∀ key value, (key, value) ∈ c.entries → map.data[key]? = some value ∧ value ≠ "" := by
  constructor
  · intro h
    obtain ⟨text, htext, h⟩ := exists_of_bind_eq_ok h
    obtain ⟨builderType, hbuilder, h⟩ := exists_of_bind_eq_ok h
    obtain ⟨basePullSecret, hbase, h⟩ := exists_of_bind_eq_ok h
    obtain ⟨finalPushSecret, hpush, h⟩ := exists_of_bind_eq_ok h
    obtain ⟨finalPullspec, hpullspec, h⟩ := exists_of_bind_eq_ok h
    obtain rfl := Except.ok.inj h
    obtain rfl := BuilderType.eq_text_of_ofText hbuilder
    intro key value hmem
    simp only [entries, List.mem_cons, Prod.mk.injEq, List.not_mem_nil, or_false] at hmem
    rcases hmem with ⟨rfl, rfl⟩ | ⟨rfl, rfl⟩ | ⟨rfl, rfl⟩ | ⟨rfl, rfl⟩
    · exact requiredValue_eq_ok_iff.mp htext
    · exact requiredValue_eq_ok_iff.mp hbase
    · exact requiredValue_eq_ok_iff.mp hpush
    · exact requiredValue_eq_ok_iff.mp hpullspec
  · intro h
    have hread : ∀ key value, (key, value) ∈ c.entries → requiredValue map key = .ok value :=
      fun key value hmem => requiredValue_eq_ok_iff.mpr (h key value hmem)
    rw [ofConfigMap, hread builderTypeKey c.builderType.text (by simp [entries]),
      hread basePullSecretKey c.basePullSecret (by simp [entries]),
      hread finalPushSecretKey c.finalPushSecret (by simp [entries]),
      hread finalPullspecKey c.finalPullspec (by simp [entries])]
    change (BuilderType.ofText c.builderType.text >>= _) = _
    rw [BuilderType.ofText_text]
    rfl

/-! ## What is demanded of a map -/

/-- There is a value under the key. -/
def filled (map : ConfigMap) (key : String) : Demand where
  field := key
  message := s!"ConfigMap {map.name} is missing required key {key}"
  met := ∃ value, map.data[key]? = some value ∧ value ≠ ""

def knownBuilder (map : ConfigMap) : Demand where
  field := builderTypeKey
  message :=
    let text := map.data[builderTypeKey]?.getD ""
    s!"unknown builder type {Text.quoted text}"
  met := ∃ builder : BuilderType, map.data[builderTypeKey]? = some builder.text

/-- What a map has to meet, in the order in which it is looked at. -/
def demands (map : ConfigMap) : List Demand :=
  [filled map builderTypeKey, knownBuilder map, filled map basePullSecretKey,
    filled map finalPushSecretKey, filled map finalPullspecKey]

section

variable {α : Type} {rest : List Demand}

theorem judged_requiredValue {next : String → Except Error α}
    (hrest : ∀ value, map.data[key]? = some value → value ≠ "" →
      Demand.Judged rest ((next value).map fun _ => ())) :
    Demand.Judged (filled map key :: rest) ((requiredValue map key >>= next).map fun _ => ()) := by
  by_cases hfilled : (filled map key).met
  · obtain ⟨value, hvalue, hne⟩ := hfilled
    rw [requiredValue_eq_ok_iff.mpr ⟨hvalue, hne⟩]
    exact .met ⟨value, hvalue, hne⟩ (hrest value hvalue hne)
  · have hempty : ∀ value, map.data[key]? = some value → value = "" := by
      intro value hvalue
      by_contra hne
      exact hfilled ⟨value, hvalue, hne⟩
    rw [requiredValue_of_unfilled hempty]
    exact .unmet hfilled

theorem judged_builderType {next : BuilderType → Except Error α}
    (hvalue : map.data[builderTypeKey]? = some value)
    (hrest : ∀ builder, Demand.Judged rest ((next builder).map fun _ => ())) :
    Demand.Judged (knownBuilder map :: rest)
      ((BuilderType.ofText value >>= next).map fun _ => ()) := by
  by_cases hknown : (knownBuilder map).met
  · obtain ⟨builder, hbuilder⟩ := hknown
    obtain rfl := Option.some.inj (hvalue.symm.trans hbuilder)
    rw [BuilderType.ofText_text]
    exact .met ⟨builder, hbuilder⟩ (hrest builder)
  · have hunknown : ∀ builder : BuilderType, value ≠ builder.text := by
      rintro builder rfl
      exact hknown ⟨builder, hvalue⟩
    have hmessage : (knownBuilder map).message = s!"unknown builder type {Text.quoted value}" := by
      rw [knownBuilder, hvalue, Option.getD_some]
    rw [BuilderType.ofText_of_unknown hunknown, ← hmessage]
    exact .unmet hknown

end

theorem judged_ofConfigMap (map : ConfigMap) :
    Demand.Judged (demands map) ((ofConfigMap map).map fun _ => ()) := by
  apply judged_requiredValue
  intro text htext _
  apply judged_builderType htext
  intro builderType
  apply judged_requiredValue
  intro basePullSecret _ _
  apply judged_requiredValue
  intro finalPushSecret _ _
  apply judged_requiredValue
  intro finalPullspec _ _
  exact .done

/-! ## Both ways -/

theorem requiredValue_toConfigMap (h : (key, value) ∈ c.entries) :
    requiredValue c.toConfigMap key =
      if value = "" then .error (missing mapName key) else .ok value := by
  have hget := getElem?_toConfigMap_of_mem h
  by_cases hvalue : value = ""
  · rw [if_pos hvalue]
    apply requiredValue_of_unfilled
    intro found hfound
    rw [← Option.some.inj (hget.symm.trans hfound), hvalue]
  · rw [if_neg hvalue]
    exact requiredValue_eq_ok_iff.mpr ⟨hget, hvalue⟩

theorem ofConfigMap_toConfigMap_eq (c : BuildConfiguration) : ofConfigMap c.toConfigMap =
    if c.basePullSecret = "" then .error (missing mapName basePullSecretKey)
    else if c.finalPushSecret = "" then .error (missing mapName finalPushSecretKey)
    else if c.finalPullspec = "" then .error (missing mapName finalPullspecKey)
    else .ok c := by
  have hbuilder : (builderTypeKey, c.builderType.text) ∈ c.entries := by simp [entries]
  have hbase : (basePullSecretKey, c.basePullSecret) ∈ c.entries := by simp [entries]
  have hpush : (finalPushSecretKey, c.finalPushSecret) ∈ c.entries := by simp [entries]
  have hpullspec : (finalPullspecKey, c.finalPullspec) ∈ c.entries := by simp [entries]
  rw [ofConfigMap, requiredValue_toConfigMap hbuilder, requiredValue_toConfigMap hbase,
    requiredValue_toConfigMap hpush, requiredValue_toConfigMap hpullspec,
    if_neg c.builderType.text_ne_empty]
  change (BuilderType.ofText c.builderType.text >>= _) = _
  rw [BuilderType.ofText_text]
  -- the values are read in this order, so the first empty one is the one reported
  by_cases hbase : c.basePullSecret = ""
  · rw [if_pos hbase, if_pos hbase]
    rfl
  by_cases hpush : c.finalPushSecret = ""
  · rw [if_neg hbase, if_neg hbase, if_pos hpush, if_pos hpush]
    rfl
  by_cases hpullspec : c.finalPullspec = ""
  · rw [if_neg hbase, if_neg hbase, if_neg hpush, if_neg hpush, if_pos hpullspec, if_pos hpullspec]
    rfl
  · rw [if_neg hbase, if_neg hbase, if_neg hpush, if_neg hpush, if_neg hpullspec, if_neg hpullspec]
    rfl

/-- A configuration with all its names is read back from the map that holds it. -/
theorem ofConfigMap_toConfigMap (hbase : c.basePullSecret ≠ "") (hpush : c.finalPushSecret ≠ "")
    (hpullspec : c.finalPullspec ≠ "") : ofConfigMap c.toConfigMap = .ok c := by
  rw [ofConfigMap_toConfigMap_eq, if_neg hbase, if_neg hpush, if_neg hpullspec]

theorem demands_met_iff : (∀ demand ∈ demands map, demand.met) ↔
    (∀ key ∈ recognizedKeys, ∃ value, map.data[key]? = some value ∧ value ≠ "") ∧
      ∃ builder : BuilderType, map.data[builderTypeKey]? = some builder.text := by
  simp only [demands, recognizedKeys, List.forall_mem_cons, filled, knownBuilder]
  tauto

theorem exists_ofConfigMap_eq_ok_iff :
    (∃ c, ofConfigMap map = .ok c) ↔ ∀ demand ∈ demands map, demand.met := by
  rw [← (judged_ofConfigMap map).eq_ok_iff]
  cases ofConfigMap map with
  | error e => simp [Except.map]
  | ok c => simp [Except.map]

theorem ofConfigMap_eq_ok_iff_restricted : ofConfigMap map = .ok c ↔
    (∀ demand ∈ demands map, demand.met) ∧ c.toConfigMap = restricted map := by
  rw [toConfigMap_eq_restricted_iff]
  constructor
  · intro h
    exact ⟨exists_ofConfigMap_eq_ok_iff.mp ⟨c, h⟩,
      fun key value hmem => (ofConfigMap_eq_ok_iff.mp h key value hmem).1⟩
  · rintro ⟨hmet, hentries⟩
    apply ofConfigMap_eq_ok_iff.mpr
    intro key value hmem
    have hkey : key ∈ recognizedKeys := List.mem_map_of_mem (f := Prod.fst) hmem
    obtain ⟨found, hfound, hne⟩ := (demands_met_iff.mp hmet).1 key hkey
    have hvalue := hentries key value hmem
    rw [Option.some.inj (hfound.symm.trans hvalue)] at hne
    exact ⟨hvalue, hne⟩

theorem ofConfigMap_eq_error_iff {e : Error} : ofConfigMap map = .error e ↔
    ∃ before demand after, demands map = before ++ demand :: after ∧
      (∀ earlier ∈ before, earlier.met) ∧ ¬demand.met ∧ e = .invalid demand.field demand.message := by
  rw [← (judged_ofConfigMap map).eq_error_iff]
  cases ofConfigMap map with
  | error e' => simp [Except.map]
  | ok c => simp [Except.map]

/-- A configuration is read back from its own map unless one of its names is empty, which the error then
says of the first such name. A map is read if there is a value under each of the four keys and the builder
is known; the result is written as the part of the map under these keys. If a map is not read, the error
is about the first demand that the map does not meet. -/
theorem ofConfigMap_exact :
    (∀ c : BuildConfiguration, ofConfigMap c.toConfigMap =
      if c.basePullSecret = "" then .error (missing mapName basePullSecretKey)
      else if c.finalPushSecret = "" then .error (missing mapName finalPushSecretKey)
      else if c.finalPullspec = "" then .error (missing mapName finalPullspecKey)
      else .ok c) ∧
    ∀ map : ConfigMap,
      ((∃ c, ofConfigMap map = .ok c) ↔
        (∀ key ∈ recognizedKeys, ∃ value, map.data[key]? = some value ∧ value ≠ "") ∧
          ∃ builder : BuilderType, map.data[builderTypeKey]? = some builder.text) ∧
      (∀ c, ofConfigMap map = .ok c ↔
        (∀ demand ∈ demands map, demand.met) ∧ c.toConfigMap = restricted map) ∧
      ∀ e, ofConfigMap map = .error e ↔
        ∃ before demand after, demands map = before ++ demand :: after ∧
          (∀ earlier ∈ before, earlier.met) ∧ ¬demand.met ∧
          e = .invalid demand.field demand.message := by
  refine ⟨ofConfigMap_toConfigMap_eq, fun map => ⟨?_, ?_, ?_⟩⟩
  · exact exists_ofConfigMap_eq_ok_iff.trans demands_met_iff
  · exact fun c => ofConfigMap_eq_ok_iff_restricted
  · exact fun e => ofConfigMap_eq_error_iff

/-- A secret is missing and the builder is unknown; what is said is about the builder. -/
example : ofConfigMap ⟨"m", .ofList [(builderTypeKey, "kaniko"), ("other", "")]⟩ =
    .error (.invalid "image-builder-type" "unknown builder type \"kaniko\"") := rfl

end BuildConfiguration

end BuildTrial
