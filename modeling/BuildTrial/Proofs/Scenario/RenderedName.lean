import BuildTrial.Scenario.Predicates

/-!
# Whose rendered configuration it is

A rendered configuration is named after its pool and its contents: `rendered-<pool>-<hash>`, with a hash that
has no dash in it. The wait for the configuration of a pool knows the name of the pool and not the hash, so
all it can look at is how the name starts.

That start settles the pool as long as the names of pools have no dashes in them. A pool whose name goes on
with a dash where that of another ends has configurations that look like those of the other, which is what
`renderedConfig_of_renderedName` says: the shorter name is the only one besides its own under which a
configuration passes.
-/

namespace BuildTrial

/-- The name of the configuration that is rendered for the pool, from contents with the hash. -/
def renderedName (poolName hash : String) : String := s!"rendered-{poolName}-{hash}"

namespace Predicates

variable {pool : Pool} {rendered : RenderedConfig} {poolName other hash : String}

/-! ## The start of a name -/

/-- A start that ends at a separator, in front of a last part without one, is all that is in front or ends
inside of it. -/
theorem prefix_append_cons_iff {α : Type} {separator : α} {start front last : List α}
    (hlast : separator ∉ last) :
    start ++ [separator] <+: front ++ separator :: last ↔
      start = front ∨ start ++ [separator] <+: front := by
  constructor
  · intro hstart
    rcases List.prefix_or_prefix_of_prefix hstart (List.prefix_append front _) with
      hinside | ⟨beyond, hbeyond⟩
    · exact .inr hinside
    rw [← hbeyond, List.prefix_append_right_inj, List.prefix_cons_iff] at hstart
    rcases hstart with rfl | ⟨rest, rfl, hrest⟩
    · exact .inr ⟨[], by simpa using hbeyond.symm⟩
    -- The last of what the start ends with is a separator, and behind the first there is no other.
    · rcases List.eq_nil_or_concat rest with rfl | ⟨between, c, rfl⟩
      · exact .inl (List.append_inj' hbeyond rfl).1.symm
      · have hends : front ++ separator :: between ++ [c] = start ++ [separator] := by
          simpa using hbeyond
        obtain rfl : c = separator := by simpa using (List.append_inj' hends rfl).2
        exact absurd (hrest.subset (by simp)) hlast
  · rintro (rfl | hinside)
    · simp
    · exact hinside.trans (List.prefix_append _ _)

/-- A name that starts like those of a pool is of that pool, or of one whose name goes on with a dash. -/
theorem startsWith_renderedName_iff (hhash : '-' ∉ hash.toList) :
    Text.startsWith (renderedName other hash) s!"rendered-{poolName}-" ↔
      poolName = other ∨ Text.startsWith other s!"{poolName}-" := by
  have hname : (renderedName other hash).toList =
      "rendered-".toList ++ (other.toList ++ '-' :: hash.toList) := by
    simp [renderedName, toString]
  have hstart : (s!"rendered-{poolName}-").toList =
      "rendered-".toList ++ (poolName.toList ++ ['-']) := by
    simp [toString]
  have hinside : (s!"{poolName}-").toList = poolName.toList ++ ['-'] := by simp [toString]
  rw [Text.startsWith_iff, Text.startsWith_iff, hname, hstart, hinside,
    List.prefix_append_right_inj, prefix_append_cons_iff hhash, String.toList_inj]

/-! ## The wait for a configuration -/

theorem renderedConfig_eq_satisfied_iff (hrendered : pool.rendered = some rendered) :
    renderedConfig poolName pool = .satisfied ↔
      Text.startsWith rendered.name s!"rendered-{poolName}-" ∧
        baseWorkerConfig ∈ rendered.sources := by
  simp [renderedConfig, hrendered]

/-- The names under which a configuration of the pool `other` passes. -/
theorem renderedConfig_renderedName_iff {sources : List String} (hhash : '-' ∉ hash.toList)
    (hrendered : pool.rendered = some ⟨renderedName other hash, sources⟩) :
    renderedConfig poolName pool = .satisfied ↔
      (poolName = other ∨ Text.startsWith other s!"{poolName}-") ∧ baseWorkerConfig ∈ sources := by
  rw [renderedConfig_eq_satisfied_iff hrendered, startsWith_renderedName_iff hhash]

/-- A pool without a dash in its name has configurations that pass under its own name only. -/
theorem eq_of_renderedConfig {sources : List String} (hhash : '-' ∉ hash.toList)
    (hrendered : pool.rendered = some ⟨renderedName other hash, sources⟩)
    (hdashless : '-' ∉ other.toList) (hsatisfied : renderedConfig poolName pool = .satisfied) :
    poolName = other := by
  obtain ⟨rfl | hlonger, -⟩ := (renderedConfig_renderedName_iff hhash hrendered).mp hsatisfied
  · rfl
  · exact absurd ((Text.startsWith_iff.mp hlonger).subset (by simp [toString])) hdashless

/-- A configuration with the one of workers in it passes under the name of its own pool, and under that of any
other whose name, with a dash after it, the name of its pool starts with. -/
theorem renderedConfig_of_renderedName {sources : List String} (hhash : '-' ∉ hash.toList)
    (hrendered : pool.rendered = some ⟨renderedName other hash, sources⟩) :
    (renderedConfig other pool = .satisfied ↔ baseWorkerConfig ∈ sources) ∧
      (poolName ≠ other → (renderedConfig poolName pool = .satisfied ↔
        Text.startsWith other s!"{poolName}-" ∧ baseWorkerConfig ∈ sources)) := by
  refine ⟨?_, fun hne => ?_⟩
  · simp [renderedConfig_renderedName_iff hhash hrendered]
  · simp [renderedConfig_renderedName_iff hhash hrendered, hne]

/-- A pool with a configuration that is rendered for the pool of the given name. -/
def renderedFor (poolName hash : String) : Pool where
  name := "layered"
  rendered := some ⟨renderedName poolName hash, [baseWorkerConfig]⟩

theorem renderedConfig_of_renderedName_worker :
    renderedConfig "layered" (renderedFor "layered" "abc") = .satisfied ∧
      renderedConfig "worker" (renderedFor "layered" "abc") ≠ .satisfied := by
  obtain ⟨hown, hother⟩ := @renderedConfig_of_renderedName (renderedFor "layered" "abc") "worker"
    "layered" "abc" [baseWorkerConfig] (by decide) rfl
  refine ⟨hown.mpr (by simp), fun hsatisfied => ?_⟩
  exact absurd ((hother (by decide)).mp hsatisfied).1 (by decide)

/-- What is rendered for the pool `layered-2` passes for the configuration of the pool `layered`. -/
theorem renderedConfig_of_longerName :
    (renderedFor "layered-2" "abc").rendered =
        some ⟨renderedName "layered-2" "abc", [baseWorkerConfig]⟩ ∧
      "layered" ≠ "layered-2" ∧ '-' ∉ "abc".toList ∧
      renderedConfig "layered" (renderedFor "layered-2" "abc") = .satisfied :=
  ⟨rfl, by decide, by decide, by decide⟩

end Predicates

end BuildTrial
