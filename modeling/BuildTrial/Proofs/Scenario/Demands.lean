import Mathlib.Data.List.Basic
import BuildTrial.Scenario.Options

/-!
# What is demanded of options

Options have to meet a list of demands, each on one of their fields. Validation goes through the list and
stops at the first demand that is not met (`ScenarioOptions.judged_validate`), so it accepts exactly the
options that meet all of them (`validate_eq_ok_iff`), and its error names the field of the first that they
do not meet (`validate_eq_error_iff`).
-/

namespace BuildTrial

/-- A condition on a field, with what is said if it does not hold. -/
structure Demand where
  field : String
  message : String
  met : Prop

namespace Demand

/-- What a list of demands comes to if they are looked at in their order. -/
inductive Judged : List Demand → Except Error Unit → Prop where
  | done : Judged [] (.ok ())
  | met {demand : Demand} {rest : List Demand} {result : Except Error Unit} (h : demand.met)
      (hrest : Judged rest result) : Judged (demand :: rest) result
  | unmet {demand : Demand} {rest : List Demand} (h : ¬demand.met) :
      Judged (demand :: rest) (.error (.invalid demand.field demand.message))

variable {demand : Demand} {demands rest : List Demand} {result : Except Error Unit} {e : Error}

theorem Judged.eq_ok_iff (h : Judged demands result) :
    result = .ok () ↔ ∀ demand ∈ demands, demand.met := by
  induction h with
  | done => simp
  | met hmet _ ih => simp [ih, hmet]
  | unmet hnot => simp [hnot]

theorem Judged.eq_error_iff (h : Judged demands result) :
    result = .error e ↔ ∃ before demand after, demands = before ++ demand :: after ∧
      (∀ earlier ∈ before, earlier.met) ∧ ¬demand.met ∧
      e = .invalid demand.field demand.message := by
  induction h with
  | done => simp
  | met hmet _ ih =>
    rename_i first rest result _
    rw [ih]
    constructor
    · rintro ⟨before, demand, after, rfl, hbefore, hnot, he⟩
      exact ⟨first :: before, demand, after, rfl, List.forall_mem_cons.mpr ⟨hmet, hbefore⟩, hnot, he⟩
    · rintro ⟨before, demand, after, hsplit, hbefore, hnot, he⟩
      cases before with
      | nil =>
        obtain ⟨rfl, -⟩ := List.cons.inj hsplit
        exact absurd hmet hnot
      | cons _ before =>
        obtain ⟨-, hrest⟩ := List.cons.inj hsplit
        exact ⟨before, demand, after, hrest, (List.forall_mem_cons.mp hbefore).2, hnot, he⟩
  | unmet hnot =>
    rename_i first rest
    constructor
    · intro h
      exact ⟨[], first, rest, rfl, by simp, hnot, (Except.error.inj h).symm⟩
    · rintro ⟨before, demand, after, hsplit, hbefore, -, rfl⟩
      cases before with
      | nil =>
        obtain ⟨rfl, -⟩ := List.cons.inj hsplit
        rfl
      | cons _ before =>
        obtain ⟨rfl, -⟩ := List.cons.inj hsplit
        exact absurd (hbefore _ List.mem_cons_self) hnot

/-! ## The checks of options -/

theorem judged_require {condition : Bool} (hmet : condition = true ↔ demand.met)
    (hrest : Judged rest result) :
    Judged (demand :: rest)
      (requireField condition demand.field demand.message >>= fun _ => result) := by
  cases condition with
  | true => exact .met (hmet.mp rfl) hrest
  | false => exact .unmet fun h => Bool.noConfusion (hmet.mpr h)

theorem judged_last {condition : Bool} (hmet : condition = true ↔ demand.met) :
    Judged [demand] (requireField condition demand.field demand.message) := by
  have hend : requireField condition demand.field demand.message =
      requireField condition demand.field demand.message >>= fun _ => .ok () := by
    cases condition <;> rfl
  rw [hend]
  exact judged_require hmet .done

/-- A budget is a week long at most. -/
def ofBudget (budget : String × Nat) : Demand where
  field := budget.1
  message := s!"{budget.2}s exceeds the {Timeouts.maxBudget}s limit"
  met := budget.2 ≤ 604800

theorem judged_checkBudgets (budgets : List (String × Nat)) (hrest : Judged rest result) :
    Judged (budgets.map ofBudget ++ rest) (Timeouts.checkBudgets budgets >>= fun _ => result) := by
  induction budgets with
  | nil => exact hrest
  | cons budget budgets ih =>
    rw [List.map_cons, List.cons_append, Timeouts.checkBudgets]
    split
    · rename_i hover
      exact .unmet (Nat.not_le_of_lt hover)
    · rename_i hwithin
      exact .met (Nat.le_of_not_lt hwithin) ih

end Demand

namespace ScenarioOptions

/-- What options have to meet, in the order in which it is checked. -/
def demands (o : ScenarioOptions) : List Demand :=
  [⟨"name", "scenario name is empty", ∃ c ∈ o.name.toList, Text.isBlank c = false⟩,
    ⟨"poolName", "pool name is empty", ∃ c ∈ o.poolName.toList, Text.isBlank c = false⟩,
    ⟨"timeouts.pollIntervalSecs", "poll interval must be at least one second",
      1 ≤ o.timeouts.pollInterval⟩,
    .ofBudget ("timeouts.imageRepositorySecs", o.timeouts.imageRepository),
    .ofBudget ("timeouts.renderedConfigSecs", o.timeouts.renderedConfig),
    .ofBudget ("timeouts.buildStartSecs", o.timeouts.buildStart),
    .ofBudget ("timeouts.buildCompletionSecs", o.timeouts.buildCompletion),
    .ofBudget ("timeouts.nodeImageSecs", o.timeouts.nodeImage),
    .ofBudget ("timeouts.scenarioSecs", o.timeouts.scenario),
    .ofBudget ("timeouts.pollIntervalSecs", o.timeouts.pollInterval),
    ⟨"rollout.verifyCommand", "rollout needs a verification command",
      ∀ rollout, o.rollout = some rollout → rollout.verifyCommand ≠ []⟩]

variable {o : ScenarioOptions} {e : Error}

theorem mem_demands_of_mem_budgets {budget : String × Nat} (h : budget ∈ o.timeouts.budgets) :
    .ofBudget budget ∈ o.demands := by
  have hdemand : .ofBudget budget ∈ o.timeouts.budgets.map Demand.ofBudget := List.mem_map_of_mem h
  exact .tail _ (.tail _ (.tail _ (List.mem_append_left _ hdemand)))

theorem not_isBlankText_iff {s : String} :
    (!Text.isBlankText s) = true ↔ ∃ c ∈ s.toList, Text.isBlank c = false := by
  simp [Text.isBlankText]

theorem judged_validate (o : ScenarioOptions) : Demand.Judged o.demands o.validate := by
  refine Demand.judged_require not_isBlankText_iff ?_
  refine Demand.judged_require not_isBlankText_iff ?_
  refine Demand.judged_require ?_ ?_
  · simp [Nat.one_le_iff_ne_zero]
  refine Demand.judged_checkBudgets o.timeouts.budgets ?_
  cases hrollout : o.rollout with
  | none =>
    refine .met ?_ .done
    rintro rollout ⟨⟩
  | some rollout =>
    exact Demand.judged_last (by simp)

theorem validate_eq_ok_iff : o.validate = .ok () ↔ ∀ demand ∈ o.demands, demand.met :=
  (judged_validate o).eq_ok_iff

theorem validate_eq_error_iff :
    o.validate = .error e ↔ ∃ before demand after, o.demands = before ++ demand :: after ∧
      (∀ earlier ∈ before, earlier.met) ∧ ¬demand.met ∧
      e = .invalid demand.field demand.message :=
  (judged_validate o).eq_error_iff

end ScenarioOptions

end BuildTrial
