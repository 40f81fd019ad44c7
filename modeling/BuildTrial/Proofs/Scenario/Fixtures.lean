import BuildTrial.Proofs.Rehearsal.Names
import BuildTrial.Proofs.Scenario.Mirror
import Mathlib.Data.List.Nodup

/-!
# A scenario leaves no fixture behind

The phases delete nothing, and what they create they register; the teardown deletes each of these once
and reports the deletions that failed. So after a run the names of every kind of fixture are those
from before it, together with those whose deletion the report lists as failed (`fixtures_of_run`).
Nothing that was there before is lost, whichever phase failed or panicked, and in whatever way.

The report speaks of actions by their names. That these tell one fixture from another is a part of the
argument (`Undo.eq_delete_of_name_eq`).
-/

namespace BuildTrial

/-! ## Reported failures -/

theorem Kind.blank_not_mem_text (kind : Kind) : ' ' ∉ kind.text.toList := by
  cases kind <;> decide

theorem Kind.text_injective {kind other : Kind} (h : kind.text = other.text) : kind = other := by
  revert h
  cases kind <;> cases other <;> decide

/-- Two texts that are split at their first blanks. -/
theorem eq_of_append_blank : ∀ {l l' a b : List Char}, ' ' ∉ l → ' ' ∉ l' →
    l ++ ' ' :: a = l' ++ ' ' :: b → l = l' ∧ a = b
  | [], [], _, _, _, _, h => ⟨rfl, (List.cons.inj h).2⟩
  | [], _ :: _, _, _, _, hl', h => absurd ((List.cons.inj h).1 ▸ List.mem_cons_self) hl'
  | _ :: _, [], _, _, hl, _, h => absurd ((List.cons.inj h).1 ▸ List.mem_cons_self) hl
  | _ :: _, _ :: _, _, _, hl, hl', h => by
    obtain ⟨rfl, htail⟩ := List.cons.inj h
    obtain ⟨rfl, hab⟩ := eq_of_append_blank (mt (List.mem_cons_of_mem _) hl)
      (mt (List.mem_cons_of_mem _) hl') htail
    exact ⟨rfl, hab⟩

namespace Undo

/-- The names of the four kinds of undoing, up to where they differ. -/
theorem name_delete (kind : Kind) (n : String) : (Undo.delete kind n).name.toList =
    "delete ".toList ++ (kind.text.toList ++ ' ' :: n.toList) := by
  show (s!"delete {kind.text} {n}").toList = _
  simp [toString]

theorem name_deleteNode (n : String) (machine : Option String) :
    ∃ rest, (Undo.deleteNode n machine).name.toList =
      "delete ".toList ++ (Kind.node.text.toList ++ ' ' :: rest) := by
  cases machine with
  | none =>
    refine ⟨n.toList, ?_⟩
    show (s!"delete Node {n}").toList = _
    simp [toString, Kind.text, Resource.kindName]
  | some machine =>
    refine ⟨(s!"{n} and Machine {machine}").toList, ?_⟩
    show (s!"delete Node {n} and Machine {machine}").toList = _
    simp [toString, Kind.text, Resource.kindName]

theorem name_unlabelPool (n label : String) :
    ∃ rest, (Undo.unlabelPool n label).name.toList = 'r' :: rest := by
  show ∃ rest, (s!"remove label {label} from {Kind.pool.text} {n}").toList = 'r' :: rest
  simp [toString]

theorem name_unlabelNode (n label : String) :
    ∃ rest, (Undo.unlabelNode n label).name.toList = 'r' :: rest := by
  show ∃ rest, (s!"remove label {label} from {Kind.node.text} {n}").toList = 'r' :: rest
  simp [toString]

/-- The report tells deletions of fixtures apart from each other and from everything else. -/
theorem eq_delete_of_name_eq {undo : Undo} {kind : Kind} {n : String} (hkind : kind.isFixture)
    (h : undo.name = (Undo.delete kind n).name) : undo = .delete kind n := by
  have hlist : undo.name.toList = "delete ".toList ++ (kind.text.toList ++ ' ' :: n.toList) := by
    rw [h, name_delete]
  -- a deletion is of the kind up to the next blank, and of the name after it
  have hsplit : ∀ (k : Kind) (rest : List Char),
      undo.name.toList = "delete ".toList ++ (k.text.toList ++ ' ' :: rest) →
        k = kind ∧ rest = n.toList := by
    intro k rest hname
    rw [hlist, List.append_cancel_left_eq] at hname
    obtain ⟨htext, hrest⟩ :=
      eq_of_append_blank kind.blank_not_mem_text k.blank_not_mem_text hname
    exact ⟨(Kind.text_injective (String.toList_inj.mp htext)).symm, hrest.symm⟩
  have hremove : ∀ rest, undo.name.toList ≠ 'r' :: rest := by
    intro rest hname
    rw [hlist] at hname
    simp at hname
  cases undo with
  | delete k n' =>
    obtain ⟨rfl, hn⟩ := hsplit k n'.toList (name_delete k n')
    rw [String.toList_inj.mp hn]
  | unlabelPool n' label =>
    obtain ⟨rest, hname⟩ := name_unlabelPool n' label
    exact absurd hname (hremove rest)
  | unlabelNode n' label =>
    obtain ⟨rest, hname⟩ := name_unlabelNode n' label
    exact absurd hname (hremove rest)
  | deleteNode n' machine =>
    obtain ⟨rest, hname⟩ := name_deleteNode n' machine
    obtain ⟨rfl, -⟩ := hsplit .node rest hname
    cases hkind

/-- Undoing creates nothing. -/
theorem Performed.creates_nothing {undo : Undo} {t : PlaneTrace} (h : Performed undo t) :
    ∀ e ∈ t, Event.created? e = none := by
  cases h with
  | delete kind name reply =>
    rw [List.forall_mem_singleton]
    rfl
  | unlabelPool hs => exact fun e he => ((mutate_settled hs).changed (k := .pool) he).1
  | unlabelNode hs => exact fun e he => ((mutate_settled hs).changed (k := .node) he).1
  | nodeOnly name machine reply _ =>
    rw [List.forall_mem_singleton]
    rfl
  | nodeAndMachine name machine reply reply' _ =>
    rw [List.forall_mem_cons, List.forall_mem_singleton]
    exact ⟨rfl, rfl⟩

end Undo

namespace CleanupReport

/-- Whether the report lists an action with this name as failed. -/
def Failed (report : CleanupReport) (name : String) : Prop := name ∈ report.failed.map (·.1)

theorem failed_record_iff {report : CleanupReport} {name name' : String}
    {result : Except Error Unit} :
    (report.record name' (some result)).Failed name ↔
      report.Failed name ∨ name' = name ∧ ∃ e, result = .error e := by
  rcases result with e | ⟨⟩
  · simp [record, Failed, eq_comm]
  · simp [record, Failed]

variable {ρ : Kind → Type} {ε : Type} {w w' : World (Rehearsal.Cluster ρ ε)} {t : PlaneTrace}
  {undos : List Undo} {report report' : CleanupReport} {kind : Kind} {n : String}

/-- A teardown that has nothing to delete under this name neither touches it nor reports it. -/
theorem names_of_carryOut_of_not_mem
    (h : (carryOut (undos.map Undo.action) report).Runs t (.returned report'))
    (hpath : Program.Path (World.reply Rehearsal.Cluster.serve) w t w') (hkind : kind.isFixture)
    (hmem : .delete kind n ∉ undos) :
    (n ∈ w'.plane.names kind ↔ n ∈ w.plane.names kind) ∧
      (report'.Failed (Undo.delete kind n).name ↔ report.Failed (Undo.delete kind n).name) := by
  induction undos generalizing report t w with
  | nil =>
    obtain ⟨rfl, rfl⟩ := runs_carryOut_nil_iff.mp h
    cases hpath
    exact ⟨.rfl, .rfl⟩
  | cons undo undos ih =>
    obtain ⟨t₁, o₁, t₂, rfl, h₁, h₂⟩ := runs_carryOut_cons_iff.mp h
    obtain ⟨w₁, hpath₁, hpath₂⟩ := Program.Path.append_iff.mp hpath
    obtain ⟨hne, hmem⟩ := not_or.mp (mt List.mem_cons.mpr hmem)
    obtain ⟨hnames, hfailed⟩ := ih h₂ hpath₂ hmem
    have hperformed := Undo.performed_of_runs h₁
    constructor
    · refine hnames.trans (Rehearsal.Cluster.names_of_path_untouched hpath₁ ?_ ?_)
      · intro e he hcreated
        rw [hperformed.creates_nothing e he] at hcreated
        cases hcreated
      · intro e he hdeleted
        have := hperformed.deleted he (Event.deleting?_of_deleted? hdeleted) hkind
        exact hne this.symm
    · rw [hfailed, failed_record_iff]
      constructor
      · rintro (hfailed | ⟨hname, -⟩)
        · exact hfailed
        · exact absurd (Undo.eq_delete_of_name_eq hkind hname).symm hne
      · exact .inl

/-- A fixture that a teardown has to delete is there afterwards exactly if the report says so. -/
theorem names_of_carryOut_of_mem
    (h : (carryOut (undos.map Undo.action) report).Runs t (.returned report'))
    (hpath : Program.Path (World.reply Rehearsal.Cluster.serve) w t w') (hkind : kind.isFixture)
    (hmem : .delete kind n ∈ undos) (hnodup : undos.Nodup) (hheld : n ∈ w.plane.names kind)
    (hfresh : ¬report.Failed (Undo.delete kind n).name) :
    n ∈ w'.plane.names kind ↔ report'.Failed (Undo.delete kind n).name := by
  induction undos generalizing report t w with
  | nil => cases hmem
  | cons undo undos ih =>
    obtain ⟨t₁, o₁, t₂, rfl, h₁, h₂⟩ := runs_carryOut_cons_iff.mp h
    obtain ⟨w₁, hpath₁, hpath₂⟩ := Program.Path.append_iff.mp hpath
    obtain ⟨hnot, hnodup⟩ := List.nodup_cons.mp hnodup
    rcases List.mem_cons.mp hmem with rfl | hmem
    · -- this is the deletion; the rest of the teardown leaves the name alone
      obtain ⟨hnames, hfailed⟩ := names_of_carryOut_of_not_mem h₂ hpath₂ hkind hnot
      rw [hnames, hfailed, failed_record_iff, or_iff_right hfresh,
        and_iff_right (show (Undo.delete kind n).action.name = (Undo.delete kind n).name from rfl),
        Outcome.settle_eq_error_iff]
      rw [Undo.runs_program_delete_iff.mp h₁] at hpath₁
      exact Rehearsal.Cluster.names_of_deletion hpath₁ hheld
    · have hne : undo ≠ .delete kind n := fun h => hnot (h ▸ hmem)
      have hperformed := Undo.performed_of_runs h₁
      refine ih h₂ hpath₂ hmem hnodup ?_ ?_
      · refine (Rehearsal.Cluster.names_of_path_untouched hpath₁ ?_ ?_).mpr hheld
        · intro e he hcreated
          rw [hperformed.creates_nothing e he] at hcreated
          cases hcreated
        · intro e he hdeleted
          exact hne (hperformed.deleted he (Event.deleting?_of_deleted? hdeleted) hkind)
      · rw [failed_record_iff]
        rintro (hfailed | ⟨hname, -⟩)
        · exact hfresh hfailed
        · exact hne (Undo.eq_delete_of_name_eq hkind hname)

end CleanupReport

/-! ## The whole run -/

namespace Scenario

/-- The report of the teardown, which a run hands out whether it passed or failed. -/
def reportOf : Except ScenarioFailure ScenarioOutcome → CleanupReport
  | .error failure => failure.cleanup
  | .ok outcome => outcome.cleanup

theorem reportOf_conclude (scenario : String) (phase : Phase)
    (result : Except Error PhasesOutcome) (cleanup : CleanupReport) :
    reportOf (conclude scenario phase result cleanup) = cleanup := by
  unfold conclude
  split
  · rfl
  · split <;> rfl

theorem nodup_plan (options : ScenarioOptions) (node : Node) : (plan options node).Nodup := by
  have hmaps : BuildConfiguration.mapName ≠ Dockerfiles.mapName := by decide
  cases hrollout : options.rollout with
  | none => simp [plan, provisioned, borrowed, hrollout, hmaps]
  | some rollout =>
    cases hselection : selection options node with
    | none => simp [plan, provisioned, borrowed, hrollout, hselection, hmaps]
    | some undo =>
      rw [eq_deleteNode_of_selection hselection] at hselection
      simp [plan, provisioned, borrowed, hrollout, hselection, hmaps]

variable {ρ : Kind → Type} {ε : Type}

/-- A run that cleans up always comes back, and then the stored names of each kind of fixture are
those from before the run and those whose deletion is reported as failed. -/
theorem fixtures_of_run {options : ScenarioOptions} (hskip : options.skipCleanup = false)
    (w : World (Rehearsal.Cluster ρ ε)) :
    ∃ result w', (run options).runIn Rehearsal.Cluster.serve w = (.returned result, w') ∧
      (∀ kind, kind.isFixture → w'.plane.names kind = w.plane.names kind ∪
        {n | s!"delete {kind.text} {n}" ∈ (reportOf result).failed.map (·.1)}) ∧
      ((reportOf result).isClean → ∀ kind, kind.isFixture →
        w'.plane.names kind = w.plane.names kind) := by
  have hruns := Program.runs_trace (World.reply Rehearsal.Cluster.serve) (run options) w
  have hpath := Program.path_trace (World.reply Rehearsal.Cluster.serve) (run options) w
  obtain ⟨phases, ending, q, teardown, cleanup, ht, hphases, hteardown, ho⟩ := runs_run hskip hruns
  obtain ⟨seen, done, node, hplan, hat⟩ := phases_acquire hphases
  rw [ht] at hpath
  obtain ⟨w₁, hpath₁, hpath₂⟩ := Program.Path.append_iff.mp hpath
  rw [hat.registered] at hteardown
  have hnodup : done.reverse.Nodup := List.nodup_reverse.mpr ((nodup_plan _ _).sublist hplan.sublist)
  refine ⟨_, _, Prod.ext ho rfl, ?_⟩
  rw [reportOf_conclude]
  have hnames : ∀ kind, kind.isFixture → ∀ n,
      n ∈ ((run options).run (World.reply Rehearsal.Cluster.serve) w).2.plane.names kind ↔
        n ∈ w.plane.names kind ∨ cleanup.Failed (Undo.delete kind n).name := by
    intro kind hkind n
    obtain ⟨hcreated, hfree⟩ :=
      Rehearsal.Cluster.names_of_path_undeleted hpath₁ hat.undeleted kind n
    rw [← @mem_acquisitions_delete_iff options, hat.acquired] at hcreated hfree
    by_cases hmem : .delete kind n ∈ done
    · -- created by the run: free before it, there before the teardown
      have hteardown := CleanupReport.names_of_carryOut_of_mem hteardown hpath₂ hkind
        (List.mem_reverse.mpr hmem) hnodup (hcreated.mpr (.inr hmem)) (by simp [CleanupReport.Failed])
      rw [hteardown, or_iff_right (hfree hmem)]
    · obtain ⟨hkeep, hfailed⟩ := CleanupReport.names_of_carryOut_of_not_mem hteardown hpath₂ hkind
        (mt List.mem_reverse.mp hmem)
      rw [hkeep, hcreated, hfailed, or_iff_left hmem]
      simp [CleanupReport.Failed]
  constructor
  · intro kind hkind
    exact Set.ext fun n => hnames kind hkind n
  · intro hclean kind hkind
    refine Set.ext fun n => (hnames kind hkind n).trans (or_iff_left ?_)
    rw [CleanupReport.Failed, List.isEmpty_iff.mp hclean]
    exact List.not_mem_nil

/-- In a cluster that refuses to delete the repository again. -/
theorem fixtures_of_run_refused :
    ∃ c : Rehearsal.Cluster,
      c = { secrets := { memory := .ofList [{ name := "builder-dockercfg-x" }] }
            imageRepositories := { memory := { refusedDeletes := [imageRepositoryName] } }
            executor := .scripted [] } ∧
      ∃ result w', (run { name := "demo", builderType := .openshiftImageBuilder }).runIn
          Rehearsal.Cluster.serve (.start c) = (.returned result, w') ∧
        (∀ kind, kind.isFixture → w'.plane.names kind = c.names kind ∪
          {n | s!"delete {kind.text} {n}" ∈ (reportOf result).failed.map (·.1)}) ∧
        ((reportOf result).isClean → ∀ kind, kind.isFixture →
          w'.plane.names kind = c.names kind) :=
  ⟨_, rfl, fixtures_of_run rfl (.start _)⟩

end Scenario

end BuildTrial
