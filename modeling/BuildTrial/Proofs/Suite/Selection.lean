import Mathlib.Data.List.Forall2
import BuildTrial.Suite

/-!
# What is selected from a suite

A name selects the first scenario that bears it, so what is selected by known names has one scenario for
each of them (`Suite.forall₂_chosen`). Names are looked up one after the other, and the first that no
scenario bears is the one that is complained about.
-/

namespace BuildTrial

/-- A property that not all members of a list have is missing for a first one. -/
theorem exists_first_not {α : Type} {P : α → Prop} {l : List α} (h : ¬∀ a ∈ l, P a) :
    ∃ before a after, l = before ++ a :: after ∧ (∀ b ∈ before, P b) ∧ ¬P a := by
  induction l with
  | nil => exact absurd (by simp) h
  | cons first rest ih =>
    by_cases hfirst : P first
    · have hrest : ¬∀ a ∈ rest, P a := fun hall => h (List.forall_mem_cons.mpr ⟨hfirst, hall⟩)
      obtain ⟨before, a, after, rfl, hbefore, ha⟩ := ih hrest
      exact ⟨first :: before, a, after, rfl, List.forall_mem_cons.mpr ⟨hfirst, hbefore⟩, ha⟩
    · exact ⟨[], first, rest, rfl, by simp, hfirst⟩

namespace Suite

variable {s : Suite} {name : String} {names before after : List String} {o : ScenarioOptions}

/-- A scenario of the suite bears the name. -/
def Has (s : Suite) (name : String) : Prop := ∃ o ∈ s.scenarios, o.name = name

/-- The scenario is the first of the suite that bears the name. -/
def First (s : Suite) (name : String) (o : ScenarioOptions) : Prop :=
  ∃ before after, s.scenarios = before ++ o :: after ∧ o.name = name ∧
    ∀ earlier ∈ before, earlier.name ≠ name

/-- The error about a name that no scenario of the suite bears. -/
def unknown (s : Suite) (name : String) : UnknownScenario := ⟨name, s.scenarios.map (·.name)⟩

def first? (s : Suite) (name : String) : Option ScenarioOptions :=
  s.scenarios.find? (·.name = name)

/-- The scenarios with the names, in the order of the names; all if no name is given. -/
def chosen (s : Suite) (names : List String) : List ScenarioOptions :=
  if names = [] then s.scenarios else names.filterMap s.first?

theorem first?_eq_some_iff : s.first? name = some o ↔ s.First name o := by
  rw [first?, List.find?_eq_some_iff_append]
  constructor
  · rintro ⟨hname, before, after, hsplit, hbefore⟩
    exact ⟨before, after, hsplit, by simpa using hname, by simpa using hbefore⟩
  · rintro ⟨before, after, hsplit, hname, hbefore⟩
    exact ⟨by simpa using hname, before, after, hsplit, by simpa using hbefore⟩

theorem exists_first?_eq_some (h : s.Has name) : ∃ o, s.first? name = some o := by
  obtain ⟨o, ho, hname⟩ := h
  apply Option.isSome_iff_exists.mp
  rw [first?, List.find?_isSome]
  exact ⟨o, ho, by simpa using hname⟩

theorem first?_eq_none (h : ¬s.Has name) : s.first? name = none := by
  rw [first?, List.find?_eq_none]
  intro o ho
  have hname : o.name ≠ name := fun hname => h ⟨o, ho, hname⟩
  simpa using hname

theorem find_of_first? (h : s.first? name = some o) : find s.scenarios name = .ok o := by
  rw [first?] at h
  rw [find, h]

theorem find_of_not_has (h : ¬s.Has name) : find s.scenarios name = .error (s.unknown name) := by
  have hnone := first?_eq_none h
  rw [first?] at hnone
  rw [find, hnone]
  rfl

theorem forall₂_filterMap_first? (hknown : ∀ name ∈ names, s.Has name) :
    List.Forall₂ s.First names (names.filterMap s.first?) := by
  induction names with
  | nil => exact .nil
  | cons name names ih =>
    obtain ⟨hname, hnames⟩ := List.forall_mem_cons.mp hknown
    obtain ⟨o, ho⟩ := exists_first?_eq_some hname
    rw [List.filterMap_cons_some ho]
    exact .cons (first?_eq_some_iff.mp ho) (ih hnames)

/-- Each name stands for the first scenario that bears it, also where a name is repeated. -/
theorem forall₂_chosen (hknown : ∀ name ∈ names, s.Has name) (hnames : names ≠ []) :
    List.Forall₂ s.First names (s.chosen names) := by
  rw [chosen, if_neg hnames]
  exact forall₂_filterMap_first? hknown

theorem mapM_find_of_known (hknown : ∀ name ∈ names, s.Has name) :
    names.mapM (find s.scenarios) = .ok (names.filterMap s.first?) := by
  induction names with
  | nil => rfl
  | cons name names ih =>
    obtain ⟨hname, hnames⟩ := List.forall_mem_cons.mp hknown
    obtain ⟨o, ho⟩ := exists_first?_eq_some hname
    rw [List.mapM_cons, find_of_first? ho, ih hnames, List.filterMap_cons_some ho]
    rfl

theorem select_of_known (hknown : ∀ name ∈ names, s.Has name) :
    select s.scenarios names = .ok (s.chosen names) := by
  cases names with
  | nil => rfl
  | cons name names => exact mapM_find_of_known hknown

theorem select_of_unknown (hbefore : ∀ earlier ∈ before, s.Has earlier) (hname : ¬s.Has name) :
    select s.scenarios (before ++ name :: after) = .error (s.unknown name) := by
  have hne : (before ++ name :: after).isEmpty = false := by cases before <;> rfl
  rw [select, hne, List.mapM_append, mapM_find_of_known hbefore, List.mapM_cons, find_of_not_has hname]
  rfl

end Suite

end BuildTrial
