import Mathlib.Data.List.Nodup
import Mathlib.Order.Bounds.Defs
import BuildTrial.Suite
import BuildTrial.Proofs.Scenario.Demands

/-!
# Which suites are accepted

A suite is accepted if each of its scenarios meets what is demanded of it and no two share their name. If
it is refused, the error is about the first scenario that is at fault, and a scenario that is refused by
itself is not told that its name was taken (`Suite.validate_exact`).
-/

namespace BuildTrial.Suite

variable {seen : List String} {scenarios before after : List ScenarioOptions} {o : ScenarioOptions}
  {e : Error} {i j : Nat}

/-- The error about a name that occurs a second time. -/
def repeated (name : String) : Error :=
  .invalid "scenarios" s!"duplicate scenario name {name}"

/-! ## One after the other -/

theorem validateAfter_cons_eq_ok_iff : validateAfter seen (o :: scenarios) = .ok () ↔
    o.validate = .ok () ∧ o.name ∉ seen ∧ validateAfter (o.name :: seen) scenarios = .ok () := by
  rw [validateAfter]
  cases o.validate with
  | error e => exact iff_of_false (fun h => nomatch h) fun h => nomatch h.1
  | ok a =>
    change (if o.name ∈ seen then _ else _) = _ ↔ _
    split
    · rename_i hseen
      exact iff_of_false (fun h => nomatch h) fun h => h.2.1 hseen
    · rename_i hnew
      simp [hnew]

theorem validateAfter_cons_eq_error_iff : validateAfter seen (o :: scenarios) = .error e ↔
    o.validate = .error e ∨
    o.validate = .ok () ∧ o.name ∈ seen ∧ e = repeated o.name ∨
    o.validate = .ok () ∧ o.name ∉ seen ∧ validateAfter (o.name :: seen) scenarios = .error e := by
  rw [validateAfter]
  cases o.validate with
  | error e' =>
    change Except.error e' = .error e ↔ _
    simp
  | ok a =>
    change (if o.name ∈ seen then _ else _) = _ ↔ _
    split
    · rename_i hseen
      simp [hseen, repeated, eq_comm]
    · rename_i hnew
      simp [hnew]

theorem validateAfter_eq_ok_iff : validateAfter seen scenarios = .ok () ↔
    (∀ o ∈ scenarios, o.validate = .ok ()) ∧ (scenarios.map (·.name)).Nodup ∧
      ∀ o ∈ scenarios, o.name ∉ seen := by
  induction scenarios generalizing seen with
  | nil => simp [validateAfter]
  | cons o scenarios ih =>
    rw [validateAfter_cons_eq_ok_iff, ih, List.forall_mem_cons, List.forall_mem_cons, List.map_cons,
      List.nodup_cons]
    constructor
    · rintro ⟨ho, hnew, hvalid, hnodup, hothers⟩
      refine ⟨⟨ho, hvalid⟩, ⟨fun hmem => ?_, hnodup⟩, hnew, fun other hother hseen => ?_⟩
      · obtain ⟨other, hother, hname⟩ := List.mem_map.mp hmem
        exact hothers other hother (hname ▸ List.mem_cons_self)
      · exact hothers other hother (List.mem_cons_of_mem _ hseen)
    · rintro ⟨⟨ho, hvalid⟩, ⟨hfresh, hnodup⟩, hnew, hothers⟩
      refine ⟨ho, hnew, hvalid, hnodup, fun other hother hmem => ?_⟩
      rcases List.mem_cons.mp hmem with hname | hseen
      · exact hfresh (List.mem_map.mpr ⟨other, hother, hname⟩)
      · exact hothers other hother hseen

/-- An error comes from the first scenario that is at fault, and all before it are accepted. -/
theorem validateAfter_eq_error_iff : validateAfter seen scenarios = .error e ↔
    ∃ before o after, scenarios = before ++ o :: after ∧ validateAfter seen before = .ok () ∧
      (o.validate = .error e ∨ o.validate = .ok () ∧
        (o.name ∈ seen ∨ o.name ∈ before.map (·.name)) ∧ e = repeated o.name) := by
  induction scenarios generalizing seen with
  | nil => simp [validateAfter]
  | cons first rest ih =>
    rw [validateAfter_cons_eq_error_iff, ih]
    constructor
    · rintro (hinvalid | ⟨hvalid, hseen, he⟩ | ⟨hvalid, hnew, before, o, after, rfl, hbefore, hfault⟩)
      · exact ⟨[], first, rest, rfl, rfl, .inl hinvalid⟩
      · exact ⟨[], first, rest, rfl, rfl, .inr ⟨hvalid, .inl hseen, he⟩⟩
      · refine ⟨first :: before, o, after, rfl,
          validateAfter_cons_eq_ok_iff.mpr ⟨hvalid, hnew, hbefore⟩, hfault.imp_right ?_⟩
        rintro ⟨ho, htaken, he⟩
        refine ⟨ho, ?_, he⟩
        -- the first name moves from the names seen to the names before
        rw [List.map_cons, List.mem_cons, or_left_comm, ← or_assoc, ← List.mem_cons]
        exact htaken
    · rintro ⟨before, o, after, hsplit, hbefore, hfault⟩
      cases before with
      | nil =>
        obtain ⟨rfl, rfl⟩ := List.cons.inj hsplit
        rcases hfault with hinvalid | ⟨hvalid, htaken, he⟩
        · exact .inl hinvalid
        · exact .inr (.inl ⟨hvalid, htaken.resolve_right (by simp), he⟩)
      | cons _ before =>
        obtain ⟨rfl, rfl⟩ := List.cons.inj hsplit
        obtain ⟨hvalid, hnew, hbefore⟩ := validateAfter_cons_eq_ok_iff.mp hbefore
        refine .inr (.inr ⟨hvalid, hnew, before, o, after, rfl, hbefore, hfault.imp_right ?_⟩)
        rintro ⟨ho, htaken, he⟩
        refine ⟨ho, ?_, he⟩
        rw [List.map_cons, List.mem_cons, or_left_comm, ← or_assoc, ← List.mem_cons] at htaken
        exact htaken

/-! ## By position -/

/-- The scenario at the position is refused by itself, or its name occurs at an earlier position. -/
def FaultyAt (scenarios : List ScenarioOptions) (i : Nat) : Prop :=
  ∃ o, scenarios[i]? = some o ∧
    ((∃ e, o.validate = .error e) ∨
      ∃ j < i, ∃ earlier, scenarios[j]? = some earlier ∧ earlier.name = o.name)

theorem FaultyAt.lt_length (h : FaultyAt scenarios i) : i < scenarios.length := by
  obtain ⟨o, ho, -⟩ := h
  exact (List.getElem?_eq_some_iff.mp ho).1

/-- Whether a scenario is at fault does not depend on those after it. -/
theorem faultyAt_append (h : i < before.length) :
    FaultyAt (before ++ after) i ↔ FaultyAt before i := by
  unfold FaultyAt
  rw [List.getElem?_append_left h]
  refine exists_congr fun o => and_congr_right fun _ => or_congr_right ?_
  refine exists_congr fun j => and_congr_right fun hj => ?_
  rw [List.getElem?_append_left (Nat.lt_trans hj h)]

theorem faultyAt_length : FaultyAt (before ++ o :: after) before.length ↔
    (∃ e, o.validate = .error e) ∨ o.name ∈ before.map (·.name) := by
  have ho : (before ++ o :: after)[before.length]? = some o := by simp
  have htaken : (∃ j < before.length, ∃ earlier, (before ++ o :: after)[j]? = some earlier ∧
      earlier.name = o.name) ↔ o.name ∈ before.map (·.name) := by
    constructor
    · rintro ⟨j, hj, earlier, hearlier, hname⟩
      rw [List.getElem?_append_left hj] at hearlier
      exact List.mem_map.mpr ⟨earlier, List.mem_of_getElem? hearlier, hname⟩
    · intro hmem
      obtain ⟨earlier, hearlier, hname⟩ := List.mem_map.mp hmem
      obtain ⟨j, hj, rfl⟩ := List.mem_iff_getElem.mp hearlier
      refine ⟨j, hj, before[j], ?_, hname⟩
      rw [List.getElem?_append_left hj, List.getElem?_eq_getElem hj]
  rw [← htaken, FaultyAt]
  constructor
  · rintro ⟨o', ho', hfault⟩
    obtain rfl := Option.some.inj (ho'.symm.trans ho)
    exact hfault
  · exact fun hfault => ⟨o, ho, hfault⟩

theorem not_faultyAt_of_validateAfter (h : validateAfter [] scenarios = .ok ()) :
    ¬FaultyAt scenarios i := by
  obtain ⟨hvalid, hnodup, -⟩ := validateAfter_eq_ok_iff.mp h
  rintro ⟨o, ho, ⟨e, he⟩ | ⟨j, hji, earlier, hearlier, hname⟩⟩
  · rw [hvalid o (List.mem_of_getElem? ho)] at he
    cases he
  · have hj : (scenarios.map (·.name))[j]? = some o.name := by
      rw [List.getElem?_map, hearlier, Option.map_some, hname]
    have hi : (scenarios.map (·.name))[i]? = some o.name := by
      rw [List.getElem?_map, ho, Option.map_some]
    have hlength := (List.getElem?_eq_some_iff.mp hj).1
    exact Nat.ne_of_lt hji ((List.getElem?_inj hlength hnodup).mp (hj.trans hi.symm))

theorem validateAfter_nil_eq_ok_iff :
    validateAfter [] scenarios = .ok () ↔ ∀ i, ¬FaultyAt scenarios i := by
  constructor
  · exact fun h i => not_faultyAt_of_validateAfter h
  · intro h
    cases hvalidate : validateAfter [] scenarios with
    | ok _ => rfl
    | error e =>
      obtain ⟨before, o, after, rfl, -, hfault⟩ := validateAfter_eq_error_iff.mp hvalidate
      refine absurd (faultyAt_length.mpr ?_) (h before.length)
      exact hfault.imp (fun he => ⟨e, he⟩) fun htaken => htaken.2.1.resolve_left (by simp)

theorem validateAfter_nil_eq_error_iff : validateAfter [] scenarios = .error e ↔
    ∃ i o, IsLeast {i | FaultyAt scenarios i} i ∧ scenarios[i]? = some o ∧
      (o.validate = .error e ∨ o.validate = .ok () ∧ e = repeated o.name) := by
  rw [validateAfter_eq_error_iff]
  constructor
  · rintro ⟨before, o, after, rfl, hbefore, hfault⟩
    refine ⟨before.length, o, ⟨faultyAt_length.mpr ?_, fun j hj => ?_⟩, by simp,
      hfault.imp_right fun htaken => ⟨htaken.1, htaken.2.2⟩⟩
    · exact hfault.imp (fun he => ⟨e, he⟩) fun htaken => htaken.2.1.resolve_left (by simp)
    · by_contra hlt
      rw [Nat.not_le] at hlt
      exact not_faultyAt_of_validateAfter hbefore ((faultyAt_append hlt).mp hj)
  · rintro ⟨i, o, ⟨hfaulty, hleast⟩, ho, hfault⟩
    obtain ⟨hlength, rfl⟩ := List.getElem?_eq_some_iff.mp ho
    -- The scenarios before the position are a suite of their own that has no fault.
    obtain ⟨before, after, hsplit, rfl⟩ : ∃ before after,
        scenarios = before ++ scenarios[i] :: after ∧ before.length = i :=
      ⟨scenarios.take i, scenarios.drop (i + 1), by simp, by simp [Nat.le_of_lt hlength]⟩
    refine ⟨before, _, after, hsplit, validateAfter_nil_eq_ok_iff.mpr fun j hj => ?_,
      hfault.imp_right fun htaken => ⟨htaken.1, .inr ?_, htaken.2⟩⟩
    · have hlt := hj.lt_length
      have hearlier : FaultyAt (before ++ scenarios[before.length] :: after) j :=
        (faultyAt_append hlt).mpr hj
      rw [← hsplit] at hearlier
      exact absurd (hleast hearlier) (Nat.not_le_of_lt hlt)
    · rw [hsplit] at hfaulty
      refine (faultyAt_length.mp hfaulty).resolve_left ?_
      rintro ⟨e', he'⟩
      rw [htaken.1] at he'
      cases he'

/-- Options are accepted if they meet all that is demanded of them, and otherwise the error is about the
first demand that they do not meet. A suite is accepted if all its scenarios are and no name occurs twice.
Otherwise the error is about the first position where a scenario is refused by itself or repeats a name;
where it does both, the scenario's own error counts. -/
theorem validate_exact :
    (∀ o : ScenarioOptions, (o.validate = .ok () ↔ ∀ demand ∈ o.demands, demand.met) ∧
      ∀ e, o.validate = .error e ↔ ∃ before demand after, o.demands = before ++ demand :: after ∧
        (∀ earlier ∈ before, earlier.met) ∧ ¬demand.met ∧
        e = .invalid demand.field demand.message) ∧
    ∀ s : Suite,
      (s.validate = .ok () ↔
        (∀ o ∈ s.scenarios, o.validate = .ok ()) ∧ (s.scenarios.map (·.name)).Nodup) ∧
      ∀ e, s.validate = .error e ↔
        ∃ i o, IsLeast {i | FaultyAt s.scenarios i} i ∧ s.scenarios[i]? = some o ∧
          (o.validate = .error e ∨ o.validate = .ok () ∧ e = repeated o.name) := by
  refine ⟨fun o => ⟨ScenarioOptions.validate_eq_ok_iff, fun e => ScenarioOptions.validate_eq_error_iff⟩,
    fun s => ⟨?_, fun e => validateAfter_nil_eq_error_iff⟩⟩
  rw [validate, validateAfter_eq_ok_iff]
  simp

/-- The second scenario repeats a name and polls without a pause; what is said is about the pause. -/
example :
    let first : ScenarioOptions := { name := "a", builderType := .customPodBuilder }
    validate ⟨[first, { first with timeouts := { pollInterval := 0 } }, first]⟩ =
      .error (.invalid "timeouts.pollIntervalSecs" "poll interval must be at least one second") := rfl

end BuildTrial.Suite
