import BuildTrial.Proofs.Cleanup.Once
import BuildTrial.Store

/-!
# The accounts of a pass

Bodies run each other and register further actions while a pass goes over the actions that it found.
A `Turn` is `Accounted` for if the deeds of the pass show why its run came back as it did: its own
body began and ended so, or it was claimed already, before the pass or by a body of the same pass.
`Turns.accounted` shows it of every turn by induction on the pass: what a later turn sees claimed
was claimed at the start, or in the turns before it, and those are turns of newer actions
(`Turns.handles`), so some body claimed it. The report lists the names of the turns by their results
(`CleanupReport.foldl_recordTurn`), which makes each of its lists a part of the names in order.
-/

namespace BuildTrial

variable {I : Interface}

/-! ## What a report makes of its turns -/

namespace Turn

def completed? (turn : Turn) : Option String :=
  match turn.result with
  | some (.ok ()) => some turn.name
  | _ => none

def alreadyRan? (turn : Turn) : Option String :=
  match turn.result with
  | none => some turn.name
  | _ => none

def failed? (turn : Turn) : Option (String × Error) :=
  match turn.result with
  | some (.error e) => some (turn.name, e)
  | _ => none

end Turn

/-- A report lists the turns by their results, each list in the order of the turns. -/
theorem CleanupReport.foldl_recordTurn (turns : List Turn) (report : CleanupReport) :
    turns.foldl recordTurn report =
      { completed := report.completed ++ turns.filterMap Turn.completed?
        alreadyRan := report.alreadyRan ++ turns.filterMap Turn.alreadyRan?
        failed := report.failed ++ turns.filterMap Turn.failed?
        skipped := report.skipped } := by
  induction turns generalizing report with
  | nil => simp
  | cons turn turns ih =>
    obtain ⟨h, name, _ | e | ⟨⟨⟩⟩⟩ := turn <;>
      simp [ih, recordTurn, record, List.filterMap_cons, Turn.completed?, Turn.alreadyRan?,
        Turn.failed?]

namespace Turn

/-- Every turn is in exactly one of the lists. -/
theorem length_lists (turns : List Turn) :
    (turns.filterMap completed?).length + (turns.filterMap alreadyRan?).length +
      (turns.filterMap failed?).length = turns.length := by
  induction turns with
  | nil => rfl
  | cons turn turns ih =>
    obtain ⟨h, name, _ | e | ⟨⟨⟩⟩⟩ := turn <;>
      simp only [List.filterMap_cons, completed?, alreadyRan?, failed?, List.length_cons] <;>
      omega

/-- What lists turns by their names lists some of the names in order. -/
theorem sublist_names {f : Turn → Option String} (hf : ∀ turn, ∀ n ∈ f turn, n = turn.name)
    (turns : List Turn) : (turns.filterMap f).Sublist (turns.map name) := by
  induction turns with
  | nil => exact .slnil
  | cons turn turns ih =>
    rw [List.filterMap_cons, List.map_cons]
    cases hturn : f turn with
    | none => exact ih.cons _
    | some n =>
      obtain rfl := hf turn n hturn
      exact ih.cons_cons _

theorem completed_sublist (turns : List Turn) :
    (turns.filterMap completed?).Sublist (turns.map name) := by
  refine sublist_names (fun turn n hn => ?_) turns
  obtain ⟨h, name, _ | e | ⟨⟨⟩⟩⟩ := turn <;> simp_all [completed?]

theorem alreadyRan_sublist (turns : List Turn) :
    (turns.filterMap alreadyRan?).Sublist (turns.map name) := by
  refine sublist_names (fun turn n hn => ?_) turns
  obtain ⟨h, name, _ | e | ⟨⟨⟩⟩⟩ := turn <;> simp_all [alreadyRan?]

theorem failed_sublist (turns : List Turn) :
    ((turns.filterMap failed?).map Prod.fst).Sublist (turns.map name) := by
  rw [List.map_filterMap]
  refine sublist_names (fun turn n hn => ?_) turns
  obtain ⟨h, name, _ | e | ⟨⟨⟩⟩⟩ := turn <;> simp_all [failed?]

/-! ## Why a turn came back as it did -/

/-- The deeds of a pass over `r` account for the result of a turn. -/
inductive Accounted (r : Registry I) (log : List Deed) : Turn → Prop where
  | completed {h : Handle} {name : String} {before inside after : List Deed}
      (hlog : log = before ++ .started none h ::
        (inside ++ .ended none h (.returned (.ok ())) :: after)) :
    Accounted r log ⟨h, name, some (.ok ())⟩
  | failed {h : Handle} {name : String} {e : Error} {before inside after : List Deed}
      (hlog : log = before ++ .started none h ::
        (inside ++ .ended none h (.returned (.error e)) :: after)) :
    Accounted r log ⟨h, name, some (.error e)⟩
  | panicked {h : Handle} {name : String} {payload : Panic} {before inside after : List Deed}
      (hlog : log = before ++ .started none h ::
        (inside ++ .ended none h (.panicked payload) :: after)) :
    Accounted r log ⟨h, name, some (.error (.internal name ("PANIC: " ++ payload.message)))⟩
  /-- The action was claimed before the pass, or by a body that ran before its turn came. -/
  | alreadyRan {h : Handle} {name : String} {before after : List Deed}
      (hlog : log = before ++ .refused none h :: after)
      (hran : r.hasRun h = true ∨ ∃ caller, .started (some caller) h ∈ before) :
    Accounted r log ⟨h, name, none⟩

theorem Accounted.of_settle {r : Registry I} {log before inside after : List Deed} {h : Handle}
    {outcome : Outcome (Except Error Unit)} (name : String)
    (hlog : log = before ++ .started none h :: (inside ++ .ended none h outcome :: after)) :
    Accounted r log ⟨h, name, some (outcome.settle name)⟩ := by
  rcases outcome with (e | ⟨⟨⟩⟩) | payload
  · exact .failed hlog
  · exact .completed hlog
  · exact .panicked hlog

theorem Accounted.append {r : Registry I} {log : List Deed} {turn : Turn}
    (h : turn.Accounted r log) (more : List Deed) : turn.Accounted r (log ++ more) := by
  cases h with
  | completed hlog => exact .completed (by rw [hlog]; simp; rfl)
  | failed hlog => exact .failed (by rw [hlog]; simp; rfl)
  | panicked hlog => exact .panicked (by rw [hlog]; simp; rfl)
  | alreadyRan hlog hran => exact .alreadyRan (by rw [hlog]; simp; rfl) hran

end Turn

namespace Registry

variable {r r' : Registry I}

/-- Before an action is turned to, only a body can have claimed it. -/
theorem Ran.claimed_by_body {h k : Handle} {result : RunResult} {log : List Deed}
    (ran : r.Ran h result log r') (hk : k ≠ h) (hran : r'.hasRun k = true) :
    r.hasRun k = true ∨ ∃ caller, .started (some caller) k ∈ log := by
  refine ((ran.path.hasRun_iff trivial k).mp hran).imp_right ?_
  rintro ⟨_ | caller, hstarted⟩
  · have hown : k ∈ log.filterMap Deed.ownTurn? := List.mem_filterMap.mpr ⟨_, hstarted, rfl⟩
    rw [ran.ownTurns] at hown
    exact absurd (List.mem_singleton.mp hown) hk
  · exact ⟨caller, hstarted⟩

theorem Ran.accounted {h : Handle} {result : RunResult} {log : List Deed}
    (ran : r.Ran h result log r') {name : String} (hname : r.name? h = some name) :
    Turn.Accounted r log ⟨h, name, result⟩ := by
  cases ran with
  | refused hc =>
    have hran := claim?_eq_none_iff.mp hc (lt_size_of_name? hname)
    exact .alreadyRan (List.nil_append _).symm (.inl hran)
  | claimed hc =>
    obtain rfl := Option.some.inj ((name?_of_claim hc).1.symm.trans hname)
    exact .of_settle _ (List.nil_append _).symm

/-- What accounts for a later turn accounts for it over the whole pass. -/
theorem Ran.accounted_later {h : Handle} {result : RunResult} {log more : List Deed} {turn : Turn}
    (ran : r.Ran h result log r') (hturn : turn.handle ≠ h) (later : turn.Accounted r' more) :
    turn.Accounted r (log ++ more) := by
  cases later with
  | completed hlog => exact .completed (by rw [hlog, ← List.append_assoc])
  | failed hlog => exact .failed (by rw [hlog, ← List.append_assoc])
  | panicked hlog => exact .panicked (by rw [hlog, ← List.append_assoc])
  | alreadyRan hlog hran =>
    refine .alreadyRan (by rw [hlog, ← List.append_assoc]) ?_
    rcases hran with hran | ⟨caller, hcaller⟩
    · exact (ran.claimed_by_body hturn hran).imp_right fun ⟨c, hc⟩ =>
        ⟨c, List.mem_append_left _ hc⟩
    · exact .inr ⟨caller, List.mem_append_right _ hcaller⟩

/-- After its turn an action has run, whoever ran it. -/
theorem Ran.hasRun {h : Handle} {result : RunResult} {log : List Deed}
    (ran : r.Ran h result log r') (hlt : h < r.size) : r'.hasRun h = true := by
  cases ran with
  | refused hc => exact claim?_eq_none_iff.mp hc hlt
  | claimed _ _ path =>
    exact (path.hasRun_iff trivial h).mpr (.inr ⟨none, List.mem_cons_self⟩)

namespace Turns

variable {count : Nat} {turns : List Turn} {log : List Deed}

/-- A pass turns to the newest action first, and to no action twice. -/
theorem handles (h : r.Turns count turns log r') :
    turns.map Turn.handle = (List.range count).reverse := by
  induction h with
  | nil => rfl
  | cons _ _ _ ih => simp [ih, List.range_succ]

theorem handle_lt (h : r.Turns count turns log r') {turn : Turn} (hturn : turn ∈ turns) :
    turn.handle < count := by
  have hmem := List.mem_map_of_mem (f := Turn.handle) hturn
  rw [h.handles, List.mem_reverse] at hmem
  exact List.mem_range.mp hmem

theorem ownTurns (h : r.Turns count turns log r') :
    log.filterMap Deed.ownTurn? = turns.map Turn.handle := by
  induction h with
  | nil => rfl
  | cons _ ran _ ih =>
    rw [List.filterMap_append, ran.ownTurns, ih]
    rfl

/-- The names of the turns are those at the start, newest first. -/
theorem names (h : r.Turns count turns log r') {names : List String}
    (hnames : ∀ k < count, r.name? k = names[k]?) :
    turns.map Turn.name = (names.take count).reverse := by
  induction h with
  | nil => rfl
  | @cons r r₁ _ h name _ _ _ _ hname ran _ ih =>
    have hlast : names[h]? = some name := (hnames h (Nat.lt_succ_self h)).symm.trans hname
    have hbefore : ∀ k < h, r₁.name? k = names[k]? := by
      intro k hk
      have hk' := hnames k (Nat.lt_succ_of_lt hk)
      obtain ⟨hlt, -⟩ := List.getElem?_eq_some_iff.mp hlast
      rw [List.getElem?_eq_getElem (Nat.lt_trans hk hlt)] at hk' ⊢
      exact ran.name? hk'
    rw [List.map_cons, ih hbefore, List.take_add_one, hlast]
    simp

theorem accounted (h : r.Turns count turns log r') : ∀ turn ∈ turns, turn.Accounted r log := by
  induction h with
  | nil => simp
  | cons hname ran rest ih =>
    rintro turn (_ | ⟨_, hturn⟩)
    · exact (ran.accounted hname).append _
    · exact ran.accounted_later (Nat.ne_of_lt (rest.handle_lt hturn)) (ih turn hturn)

theorem hasRun (h : r.Turns count turns log r') : ∀ k < count, r'.hasRun k = true := by
  induction h with
  | nil => simp
  | @cons r r₁ _ h _ _ _ _ _ hname ran rest ih =>
    intro k hk
    rcases Nat.lt_succ_iff_lt_or_eq.mp hk with hk | rfl
    · exact ih k hk
    · exact (rest.path.hasRun_iff trivial k).mpr (.inl (ran.hasRun (lt_size_of_name? hname)))

end Turns

/-! ## Both kinds of pass -/

/-- The names of the actions, newest first. -/
def newestFirst (r : Registry I) : List String := r.actions.reverse.map Action.name

theorem name?_eq_getElem? (r : Registry I) (h : Handle) :
    r.name? h = (r.actions.map Action.name)[h]? := by
  rw [name?, status?, Option.map_map, List.getElem?_map]
  rfl

theorem foldl_recordIdle (actions : List (Action I)) (report : CleanupReport) :
    actions.foldl (fun report action => report.recordIdle action.status) report =
      { report with
        alreadyRan := report.alreadyRan ++ (actions.filter Action.hasRun).map Action.name
        skipped := report.skipped ++ (actions.filter fun a => !a.hasRun).map Action.name } := by
  induction actions generalizing report with
  | nil => simp
  | cons a actions ih =>
    rw [List.foldl_cons, ih]
    cases ha : a.hasRun <;> simp [CleanupReport.recordIdle, Action.status, ha]

/-- A pass that runs nothing splits the actions by whether they were run before. -/
theorem idleReport_eq (r : Registry I) :
    r.idleReport =
      { alreadyRan := (r.actions.reverse.filter Action.hasRun).map Action.name
        skipped := (r.actions.reverse.filter fun a => !a.hasRun).map Action.name } := by
  rw [idleReport, foldl_recordIdle]
  rfl

/-- How a pass over `r` accounts for the actions that it found: its turns, their deeds, its report
and the registry that it left. -/
structure TornDown (r : Registry I) (turns : List Turn) (log : List Deed) (report : CleanupReport)
    (r' : Registry I) : Prop where
  path : Moment.Path (.idle r) log (.idle r')
  names : turns.map Turn.name = r.newestFirst
  handles : turns.map Turn.handle = (List.range r.size).reverse
  /-- The pass itself turns to these actions and to no other. -/
  ownTurns : log.filterMap Deed.ownTurn? = turns.map Turn.handle
  accounted : ∀ turn ∈ turns, turn.Accounted r log
  hasRun : ∀ h < r.size, r'.hasRun h = true
  report_eq : report = ⟨turns.filterMap Turn.completed?, turns.filterMap Turn.alreadyRan?,
    turns.filterMap Turn.failed?, []⟩
  completed_sublist : report.completed.Sublist r.newestFirst
  alreadyRan_sublist : report.alreadyRan.Sublist r.newestFirst
  failed_sublist : (report.failed.map Prod.fst).Sublist r.newestFirst
  lengths : report.completed.length + report.alreadyRan.length + report.failed.length = r.size

theorem Turns.tornDown {r r' : Registry I} {turns : List Turn} {log : List Deed}
    (h : r.Turns r.size turns log r') :
    r.TornDown turns log (turns.foldl CleanupReport.recordTurn {}) r' := by
  have hreport := CleanupReport.foldl_recordTurn turns {}
  simp only [List.nil_append] at hreport
  have hnames : turns.map Turn.name = r.newestFirst := by
    rw [h.names fun k _ => r.name?_eq_getElem? k, newestFirst, List.map_reverse, size,
      List.take_of_length_le (Nat.le_of_eq (List.length_map _))]
  have hlength : turns.length = r.size := by
    rw [← List.length_map (f := Turn.handle), h.handles, List.length_reverse, List.length_range]
  rw [hreport]
  exact {
    path := h.path
    names := hnames
    handles := h.handles
    ownTurns := h.ownTurns
    accounted := h.accounted
    hasRun := h.hasRun
    report_eq := rfl
    completed_sublist := hnames ▸ Turn.completed_sublist turns
    alreadyRan_sublist := hnames ▸ Turn.alreadyRan_sublist turns
    failed_sublist := hnames ▸ Turn.failed_sublist turns
    lengths := (Turn.length_lists turns).trans hlength }

end Registry

/-- The failures of a report make an error, which names them in order. -/
theorem CleanupReport.toError?_eq_some_iff {report : CleanupReport} {e : Error} :
    report.toError? = some e ↔
      report.failed ≠ [] ∧ e = .cleanupFailed (report.failed.map Prod.fst) := by
  unfold toError? isClean
  cases report.failed with
  | nil => simp
  | cons failure failed => simp [eq_comm]

/-- Whatever the bodies do and whatever they are replied, a pass comes back, with every action that
it found accounted for, newest first, and run; a pass that skips runs nothing and changes nothing.
Either way the report makes an error if something failed, and only then. -/
theorem Registry.runAll_accounted {r : Registry I} {skip : Bool} {t : Trace I}
    {o : Outcome (CleanupReport × Registry I)} (hr : (r.runAll skip).Runs t o) :
    ∃ report r', o = .returned (report, r') ∧
      (skip = false → ∃ turns log, r.TornDown turns log report r') ∧
      (skip = true → t = [] ∧ r' = r ∧
        report = ⟨[], (r.actions.reverse.filter Action.hasRun).map Action.name, [],
          (r.actions.reverse.filter fun a => !a.hasRun).map Action.name⟩) ∧
      ∀ e, report.toError? = some e ↔
        report.failed ≠ [] ∧ e = .cleanupFailed (report.failed.map Prod.fst) := by
  cases skip with
  | false =>
    obtain ⟨turns, log, r', rfl, hturns⟩ := turns_of_runs_runAll hr
    exact ⟨_, r', rfl, fun _ => ⟨turns, log, hturns.tornDown⟩, nofun,
      fun _ => CleanupReport.toError?_eq_some_iff⟩
  | true =>
    obtain ⟨rfl, rfl⟩ := Program.runs_done_iff.mp hr
    exact ⟨_, r, rfl, nofun, fun _ => ⟨rfl, rfl, r.idleReport_eq⟩,
      fun _ => CleanupReport.toError?_eq_some_iff⟩

/-- Of two actions the newer one panics, and the older one still has its turn. -/
theorem Registry.runAll_accounted_panicked :
    ∃ (r r' : Registry planeInterface.timed) (turns : List Turn) (log : List Deed),
      (r.runAll false).Runs [] (.returned
        (⟨["pool"], [], [("volume", .internal "volume" "PANIC: unknown panic")], []⟩, r')) ∧
      r.TornDown turns log
        ⟨["pool"], [], [("volume", .internal "volume" "PANIC: unknown panic")], []⟩ r' := by
  let actions : List (PlainAction planeInterface.timed) :=
    [⟨"pool", .done (.ok ())⟩, ⟨"volume", .panic .untold⟩]
  have hr : ((ofPrograms actions).runAll false).Runs [] (.returned
      (⟨["pool"], [], [("volume", .internal "volume" "PANIC: unknown panic")], []⟩,
        ⟨actions.map PlainAction.claimed⟩)) := by
    rw [runAll_ofPrograms]
    exact .done _
  obtain ⟨report, r', ho, htorn, -, -⟩ := runAll_accounted hr
  obtain ⟨rfl, rfl⟩ := Prod.mk.inj (Outcome.returned.inj ho)
  obtain ⟨turns, log, htorn⟩ := htorn rfl
  exact ⟨_, _, turns, log, hr, htorn⟩

end BuildTrial
