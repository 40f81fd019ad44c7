import BuildTrial.Proofs.Scenario.Demands
import BuildTrial.Suite

/-!
# What overrides change

To run a scenario in another pool is to take the Dockerfile of its own pool along. The pool that it goes
to may have a Dockerfile already, or be the same pool; `getElem?_carried` is the whole map in all of these
cases. A Dockerfile that is carried to where it is stays there (`carried_self`), so overrides that are
applied again change nothing. `apply_exact` adds which fields are touched and when the result is valid.
-/

namespace BuildTrial

namespace Overrides

/-- Dockerfiles, with the one of a pool carried to another pool. -/
def carried (files : StringMap String) (source target : String) : StringMap String :=
  match files[source]? with
  | some dockerfile => (files.erase source).insert target dockerfile
  | none => files

variable {files : StringMap String} {source target key : String}

theorem getElem?_carried : (carried files source target)[key]? =
    if key = target ∧ source ∈ files then files[source]?
    else if key = target then files[target]?
    else if key = source then none
    else files[key]? := by
  unfold carried
  split
  · rename_i dockerfile hsource
    have hmem : source ∈ files := by
      rw [Std.ExtTreeMap.mem_iff_isSome_getElem?, hsource]
      rfl
    rw [Std.ExtTreeMap.getElem?_insert, Std.ExtTreeMap.getElem?_erase]
    simp only [Std.LawfulEqCmp.compare_eq_iff_eq, hmem, and_true, hsource]
    by_cases htarget : key = target
    · rw [if_pos htarget.symm, if_pos htarget]
    · rw [if_neg (Ne.symm htarget), if_neg htarget, if_neg htarget]
      by_cases hkey : key = source
      · rw [if_pos hkey.symm, if_pos hkey]
      · rw [if_neg (Ne.symm hkey), if_neg hkey]
  · rename_i hsource
    have hmem : source ∉ files := by
      rw [Std.ExtTreeMap.mem_iff_isSome_getElem?, hsource]
      simp
    simp only [hmem, and_false, if_false]
    by_cases htarget : key = target
    · rw [if_pos htarget, htarget]
    · rw [if_neg htarget]
      by_cases hkey : key = source
      · rw [if_pos hkey, hkey, hsource]
      · rw [if_neg hkey]

theorem carried_self : carried files source source = files := by
  apply Std.ExtTreeMap.ext_getElem?
  intro key
  rw [getElem?_carried]
  by_cases hkey : key = source
  · rw [hkey]
    simp
  · simp [hkey]

variable (overrides : Overrides) (o : ScenarioOptions)

theorem moveTo_eq (pool : String) : moveTo pool o =
    { o with poolName := pool, dockerfiles := carried o.dockerfiles o.poolName pool } := by
  unfold moveTo carried
  cases o.dockerfiles[o.poolName]? <;> rfl

theorem apply_eq : overrides.apply o =
    { o with
      poolName := overrides.pool.getD o.poolName
      dockerfiles := overrides.pool.elim o.dockerfiles (carried o.dockerfiles o.poolName)
      builderType := overrides.builder.getD o.builderType
      skipCleanup := overrides.skipCleanup || o.skipCleanup } := by
  obtain ⟨pool, builder, skip⟩ := overrides
  cases pool <;> cases builder <;> cases skip <;> simp [apply, moveTo_eq]

theorem apply_apply : overrides.apply (overrides.apply o) = overrides.apply o := by
  rw [apply_eq overrides (overrides.apply o), apply_eq]
  obtain ⟨pool, builder, skip⟩ := overrides
  cases pool <;> cases builder <;> cases skip <;> simp [carried_self]

variable {o}

theorem validate_apply (hvalid : o.validate = .ok ())
    (hpool : ∀ pool, overrides.pool = some pool → ∃ c ∈ pool.toList, Text.isBlank c = false) :
    (overrides.apply o).validate = .ok () := by
  rw [ScenarioOptions.validate_eq_ok_iff, ScenarioOptions.demands, List.forall_mem_cons,
    List.forall_mem_cons] at hvalid
  obtain ⟨hname, hown, hrest⟩ := hvalid
  rw [apply_eq, ScenarioOptions.validate_eq_ok_iff, ScenarioOptions.demands, List.forall_mem_cons,
    List.forall_mem_cons]
  refine ⟨hname, ?_, hrest⟩
  cases hoverride : overrides.pool with
  | none => exact hown
  | some pool => exact hpool pool hoverride

/-- A scenario that is moved to a pool takes the Dockerfile of its own pool along, if it has one, and every
other Dockerfile stays where it is unless its place is taken. Overrides that were applied change nothing
when they are applied again, touch only the pool, the Dockerfiles, the builder and whether the cleanup is
skipped, and never have a cleanup that was to be skipped carried out. A valid scenario stays valid unless
it is moved to a pool without a name. -/
theorem apply_exact (overrides : Overrides) (o : ScenarioOptions) :
    (∀ pool, overrides.pool = some pool → (overrides.apply o).poolName = pool ∧
      ∀ key, (overrides.apply o).dockerfiles[key]? =
        if key = pool ∧ o.poolName ∈ o.dockerfiles then o.dockerfiles[o.poolName]?
        else if key = pool then o.dockerfiles[pool]?
        else if key = o.poolName then none
        else o.dockerfiles[key]?) ∧
    overrides.apply (overrides.apply o) = overrides.apply o ∧
    overrides.apply o =
      { o with
        poolName := (overrides.apply o).poolName
        dockerfiles := (overrides.apply o).dockerfiles
        builderType := (overrides.apply o).builderType
        skipCleanup := (overrides.apply o).skipCleanup } ∧
    (o.skipCleanup = true → (overrides.apply o).skipCleanup = true) ∧
    (o.validate = .ok () →
      (∀ pool, overrides.pool = some pool → ∃ c ∈ pool.toList, Text.isBlank c = false) →
      (overrides.apply o).validate = .ok ()) := by
  refine ⟨fun pool hpool => ?_, apply_apply overrides o, ?_, fun hskip => ?_, validate_apply overrides⟩
  · rw [apply_eq, hpool]
    exact ⟨rfl, fun key => getElem?_carried⟩
  · rw [apply_eq]
  · rw [apply_eq, hskip, Bool.or_true]

/-- A scenario with a Dockerfile for its own pool and for two others. -/
def threeFiles : ScenarioOptions where
  name := "a"
  builderType := .customPodBuilder
  dockerfiles := .ofList [("layered", "FROM a"), ("infra", "FROM b"), ("edge", "FROM c")]
  skipCleanup := true

/-- It is moved to a pool that has a Dockerfile already. -/
theorem apply_exact_occupied :
    let overrides : Overrides := { pool := some "infra", builder := some .openshiftImageBuilder }
    threeFiles.validate = .ok () ∧
      (overrides.apply threeFiles).dockerfiles["infra"]? = some "FROM a" ∧
      (overrides.apply threeFiles).dockerfiles["layered"]? = none ∧
      (overrides.apply threeFiles).dockerfiles["edge"]? = some "FROM c" ∧
      (overrides.apply threeFiles).skipCleanup = true ∧
      (overrides.apply threeFiles).validate = .ok () := by
  obtain ⟨hpool, -, -, hskip, hvalid⟩ :=
    apply_exact { pool := some "infra", builder := some .openshiftImageBuilder } threeFiles
  obtain ⟨-, hfiles⟩ := hpool "infra" rfl
  refine ⟨rfl, ?_, ?_, ?_, hskip rfl, hvalid rfl ?_⟩
  · rw [hfiles]
    rfl
  · rw [hfiles]
    rfl
  · rw [hfiles]
    rfl
  · rintro pool ⟨⟩
    exact ⟨'i', by decide, by decide⟩

end Overrides

end BuildTrial
