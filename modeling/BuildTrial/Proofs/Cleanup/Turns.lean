import BuildTrial.Proofs.Cleanup.Moments

/-!
# Turns

The one who holds a registry takes turns: by hand or in a pass, each turn runs one action to its
end, whatever its body does meanwhile. `Registry.Ran` says how a turn may go, `Registry.Turns` how a
pass goes, turn by turn, and `Registry.Answered` how any call does. The programs go no other way
(`ran_of_runs`, `turns_of_runs`, `answered_of_runs`), so a log of their deeds is a path of moments.
-/

namespace BuildTrial

variable {I : Interface}

/-! ## One turn -/

namespace ActionRun

theorem exec_of_running {m m' : ActionRun I} (h : m.step = .running m') : m.exec = m'.exec := by
  rw [exec]
  split <;> simp_all

/-- Whatever the surroundings reply, a run goes from moment to moment until the outermost body ends,
and it comes back with how that body ended. -/
theorem path_of_runs_exec {m : ActionRun I} {handles : List Handle}
    {t : Trace I} {o : Outcome (Except Error Unit × Registry I)}
    (ha : (Moment.running m handles).Aligned) (h : m.exec.Runs t o) :
    ∃ k name outcome r log, o = .returned (outcome.settle name, r) ∧
      handles.getLast? = some k ∧ r.name? k = some name ∧
      Moment.Path (.running m handles) (log ++ [.ended none k outcome]) (.idle r) ∧
      ∀ d ∈ log, d.ownTurn? = none := by
  induction m using exec.induct generalizing handles t with
  | case1 m result r hstep =>
    rw [exec_of_finished hstep] at h
    obtain ⟨-, rfl⟩ := Program.runs_done_iff.mp h
    obtain ⟨hwaiting, rfl, outcome, hending, rfl⟩ := finished_of_step hstep
    obtain ⟨current, outer, rfl, hname, houter⟩ := ha.cons
    rw [hwaiting] at houter
    obtain rfl := List.map_eq_nil_iff.mp houter
    have step := (Moment.Step.finish [current] hstep).path
    rw [deeds_of_ending hending] at step
    exact ⟨current, m.action, outcome, m.registry, [], rfl, rfl, hname, step, by simp⟩
  | case2 m m' hstep _ ih =>
    rw [exec_of_running hstep] at h
    have step := Moment.Step.goOn handles hstep
    obtain ⟨heffect, ha'⟩ := step.effect ha
    obtain ⟨k, name, outcome, r, log, rfl, hlast, hname, path, hinside⟩ := ih ha' h
    obtain ⟨hdeeds, hsame⟩ := heffect.inside ha'.ne_nil ha.ne_nil
    refine ⟨k, name, outcome, r, (m.deeds handles).1 ++ log, rfl, hsame ▸ hlast, hname, ?_, ?_⟩
    · rw [List.append_assoc]
      exact step.path.trans path
    · exact List.forall_mem_append.mpr ⟨hdeeds, hinside⟩
  | case3 m query next hstep ih =>
    rw [exec_of_asking hstep] at h
    obtain ⟨reply, t, rfl, hrest⟩ := Program.runs_ask_iff.mp h
    have step := Moment.Step.ask handles hstep reply
    obtain ⟨k, name, outcome, r, log, rfl, hlast, hname, path, hinside⟩ :=
      ih reply (step.effect ha).2 hrest
    exact ⟨k, name, outcome, r, log, rfl, hlast, hname, step.path.trans path, hinside⟩

end ActionRun

namespace Registry

/-- How a run of an action went: what it came back with, what was done meanwhile, and the registry
it left. -/
inductive Ran (r : Registry I) (h : Handle) : RunResult → List Deed → Registry I → Prop where
  | refused (hc : r.claim? h = none) : Ran r h none [.refused none h] r
  | claimed {c : Claim I} {outcome : Outcome (Except Error Unit)} {log : List Deed}
      {r' : Registry I} (hc : r.claim? h = some c) (hinside : ∀ d ∈ log, d.ownTurn? = none)
      (path : Moment.Path (.idle r) (.started none h :: (log ++ [.ended none h outcome]))
        (.idle r')) :
    Ran r h (some (outcome.settle c.name)) (.started none h :: (log ++ [.ended none h outcome])) r'

namespace Ran

variable {r r' : Registry I} {h : Handle} {result : RunResult} {log : List Deed}

theorem path (hr : r.Ran h result log r') : Moment.Path (.idle r) log (.idle r') := by
  cases hr with
  | refused hc => exact (Moment.Step.refuse hc).path
  | claimed _ _ path => exact path

/-- One turn of the one who holds the registry. -/
theorem ownTurns (hr : r.Ran h result log r') : log.filterMap Deed.ownTurn? = [h] := by
  cases hr with
  | refused hc => rfl
  | claimed _ hinside _ =>
    have hnone := List.filterMap_eq_nil_iff.mpr hinside
    simp [Deed.ownTurn?, hnone]

end Ran

theorem ran_of_runs {r : Registry I} {h : Handle} {t : Trace I}
    {o : Outcome (RunResult × Registry I)} (hr : (r.run h).Runs t o) :
    ∃ result log r', o = .returned (result, r') ∧ r.Ran h result log r' := by
  unfold run at hr
  split at hr
  · rename_i hc
    obtain ⟨-, rfl⟩ := Program.runs_done_iff.mp hr
    exact ⟨none, _, r, rfl, .refused hc⟩
  · rename_i c hc
    have start := Moment.Step.start hc
    have ha := (start.effect trivial).2
    rcases Program.runs_bind_iff.mp hr with ⟨t₁, a, t₂, rfl, hexec, hend⟩ | ⟨payload, hexec, -⟩
    · obtain ⟨k, name, outcome, r', log, heq, hlast, hname, path, hinside⟩ :=
        ActionRun.path_of_runs_exec ha hexec
      obtain ⟨rfl⟩ := heq
      obtain ⟨-, rfl⟩ := Program.runs_done_iff.mp hend
      obtain rfl := Option.some.inj hlast
      have whole := start.path.trans path
      have hsame := whole.name? trivial (name?_of_claim hc).1
      obtain rfl := Option.some.inj (hname.symm.trans hsame)
      exact ⟨_, _, r', rfl, .claimed hc hinside whole⟩
    · -- a run catches the panics of its bodies
      obtain ⟨_, _, _, _, _, heq, -⟩ := ActionRun.path_of_runs_exec ha hexec
      cases heq

end Registry

/-! ## A pass -/

/-- A turn of a pass: the action, its name, and what its run came back with. -/
structure Turn where
  handle : Handle
  name : String
  result : RunResult

namespace CleanupReport

def recordTurn (report : CleanupReport) (turn : Turn) : CleanupReport :=
  report.record turn.name turn.result

end CleanupReport

namespace Registry

/-- How a pass goes over the first `count` actions, last one first. -/
inductive Turns : Registry I → (count : Nat) → List Turn → List Deed → Registry I → Prop where
  | nil (r : Registry I) : Turns r 0 [] [] r
  | cons {r r₁ r' : Registry I} {h : Handle} {name : String} {result : RunResult}
      {log more : List Deed} {turns : List Turn} (hname : r.name? h = some name)
      (ran : r.Ran h result log r₁) (rest : Turns r₁ h turns more r') :
    Turns r (h + 1) (⟨h, name, result⟩ :: turns) (log ++ more) r'

theorem Turns.path {r r' : Registry I} {count : Nat} {turns : List Turn} {log : List Deed}
    (h : Turns r count turns log r') : Moment.Path (.idle r) log (.idle r') := by
  induction h with
  | nil r => exact .nil
  | cons _ ran _ ih => exact ran.path.trans ih

theorem Ran.name? {r r' : Registry I} {h k : Handle} {result : RunResult} {log : List Deed}
    (ran : r.Ran h result log r') {name : String} (hname : r.name? k = some name) :
    r'.name? k = some name :=
  ran.path.name? trivial hname

theorem turns_of_runs {r : Registry I} {report : CleanupReport} {count : Nat}
    {t : Trace I} {o : Outcome (CleanupReport × Registry I)}
    (hknown : ∀ h < count, ∃ name, r.name? h = some name)
    (hr : (r.runDown report count).Runs t o) :
    ∃ turns log r', o = .returned (turns.foldl CleanupReport.recordTurn report, r') ∧
      Turns r count turns log r' := by
  induction count generalizing r report t with
  | zero =>
    obtain ⟨-, rfl⟩ := Program.runs_done_iff.mp hr
    exact ⟨[], [], r, rfl, .nil r⟩
  | succ h ih =>
    obtain ⟨name, hname⟩ := hknown h (Nat.lt_succ_self h)
    obtain ⟨status, hstatus, rfl⟩ := Option.map_eq_some_iff.mp hname
    rw [runDown, hstatus] at hr
    rcases Program.runs_bind_iff.mp hr with ⟨t₁, a, t₂, rfl, hrun, hrest⟩ | ⟨payload, hrun, -⟩
    · obtain ⟨result, log, r₁, heq, ran⟩ := ran_of_runs hrun
      obtain ⟨rfl⟩ := heq
      have hknown' : ∀ k < h, ∃ name, r₁.name? k = some name := by
        intro k hk
        obtain ⟨n, hn⟩ := hknown k (Nat.lt_succ_of_lt hk)
        exact ⟨n, ran.name? hn⟩
      obtain ⟨turns, more, r', rfl, hturns⟩ := ih hknown' hrest
      exact ⟨_, _, r', rfl, .cons hname ran hturns⟩
    · obtain ⟨_, _, _, heq, -⟩ := ran_of_runs hrun
      cases heq

theorem exists_name?_of_lt {r : Registry I} {h : Handle} (hlt : h < r.size) :
    ∃ name, r.name? h = some name := by
  obtain ⟨status, hstatus⟩ := Option.isSome_iff_exists.mp (status?_isSome_iff.mpr hlt)
  exact ⟨status.name, by rw [name?, hstatus]; rfl⟩

/-- A pass takes one turn for each action that is registered when it begins. -/
theorem turns_of_runs_runAll {r : Registry I} {t : Trace I}
    {o : Outcome (CleanupReport × Registry I)} (hr : (r.runAll false).Runs t o) :
    ∃ turns log r', o = .returned (turns.foldl CleanupReport.recordTurn {}, r') ∧
      Turns r r.size turns log r' :=
  turns_of_runs (fun _ => exists_name?_of_lt) hr

end Registry

/-! ## Calls -/

/-- What the one who holds a registry may call. -/
inductive Call (I : Interface) where
  | register (name : String) (body : Body I)
  | run (h : Handle)
  | runAll (skip : Bool)

/-- What a call comes back with. -/
inductive Answer where
  | handle (h : Handle)
  | result (result : RunResult)
  | report (report : CleanupReport)

namespace Registry

def answer (r : Registry I) : Call I → Program I (Answer × Registry I)
  | .register name body => .done (.handle r.size, r.register name body)
  | .run h => (r.run h).bind fun (result, r) => .done (.result result, r)
  | .runAll skip => (r.runAll skip).bind fun (report, r) => .done (.report report, r)

/-- How a call went. -/
inductive Answered (r : Registry I) : Call I → Answer → List Deed → Registry I → Prop where
  | register (name : String) (body : Body I) :
    Answered r (.register name body) (.handle r.size) [.registered r.size] (r.register name body)
  | run {h : Handle} {result : RunResult} {log : List Deed} {r' : Registry I}
      (ran : r.Ran h result log r') : Answered r (.run h) (.result result) log r'
  | pass {turns : List Turn} {log : List Deed} {r' : Registry I}
      (hturns : r.Turns r.size turns log r') :
    Answered r (.runAll false) (.report (turns.foldl CleanupReport.recordTurn {})) log r'
  /-- A pass that runs nothing. -/
  | skip : Answered r (.runAll true) (.report r.idleReport) [] r

theorem Answered.path {r r' : Registry I} {call : Call I} {answer : Answer} {log : List Deed}
    (h : r.Answered call answer log r') : Moment.Path (.idle r) log (.idle r') := by
  cases h with
  | register name body => exact (Moment.Step.register r name body).path
  | run ran => exact ran.path
  | pass hturns => exact hturns.path
  | skip => exact .nil

/-- Every call comes back, and goes in one of these ways. -/
theorem answered_of_runs {r : Registry I} {call : Call I} {t : Trace I}
    {o : Outcome (Answer × Registry I)} (hr : (r.answer call).Runs t o) :
    ∃ answer log r', o = .returned (answer, r') ∧ r.Answered call answer log r' := by
  cases call with
  | register name body =>
    obtain ⟨-, rfl⟩ := Program.runs_done_iff.mp hr
    exact ⟨_, _, _, rfl, .register name body⟩
  | run h =>
    rcases Program.runs_bind_iff.mp hr with ⟨t₁, a, t₂, rfl, hrun, hend⟩ | ⟨payload, hrun, -⟩
    · obtain ⟨result, log, r', heq, ran⟩ := ran_of_runs hrun
      obtain ⟨rfl⟩ := heq
      obtain ⟨-, rfl⟩ := Program.runs_done_iff.mp hend
      exact ⟨_, _, _, rfl, .run ran⟩
    · obtain ⟨_, _, _, heq, -⟩ := ran_of_runs hrun
      cases heq
  | runAll skip =>
    rcases Program.runs_bind_iff.mp hr with ⟨t₁, a, t₂, rfl, hrun, hend⟩ | ⟨payload, hrun, -⟩
    · cases skip with
      | true =>
        obtain ⟨-, ⟨rfl⟩⟩ := Program.runs_done_iff.mp hrun
        obtain ⟨-, rfl⟩ := Program.runs_done_iff.mp hend
        exact ⟨_, _, _, rfl, .skip⟩
      | false =>
        obtain ⟨turns, log, r', heq, hturns⟩ := turns_of_runs_runAll hrun
        obtain ⟨rfl⟩ := heq
        obtain ⟨-, rfl⟩ := Program.runs_done_iff.mp hend
        exact ⟨_, _, _, rfl, .pass hturns⟩
    · cases skip with
      | true => cases (Program.runs_done_iff.mp hrun).2
      | false =>
        obtain ⟨_, _, _, heq, -⟩ := turns_of_runs_runAll hrun
        cases heq

end Registry

end BuildTrial
