import BuildTrial.Proofs.Cleanup.Pass
import BuildTrial.Proofs.Program.Trace

/-!
# Moments of a registry

Bodies call back into the registry that runs them, so what can be said of an action has to hold at
every moment, half-way through any number of nested bodies included. A `Moment` is a registry at
which nothing runs, or a run in progress together with the actions whose bodies are in progress. A
`Moment.Step` is one step of such a run (`ActionRun.step`), or something that whoever holds the
registry does between two runs; it comes with the `Deed`s that a log would show.

However many things a step may be, it does one of five things to the actions (`Effect`), and
everything that is proved of all moments is proved from those five.
-/

namespace BuildTrial

/-- What happens to an action. The caller is the action whose body asks for the run, and none if
the one who holds the registry does. -/
inductive Deed where
  | registered (h : Handle)
  /-- A run claims the body, which begins. -/
  | started (caller : Option Handle) (h : Handle)
  /-- A run finds nothing to claim and comes back with nothing. -/
  | refused (caller : Option Handle) (h : Handle)
  /-- The body ends, and the run that claimed it comes back with its result. -/
  | ended (caller : Option Handle) (h : Handle) (outcome : Outcome (Except Error Unit))
deriving DecidableEq

namespace Deed

/-- Whether the body of the action begins. -/
def starts (h : Handle) : Deed → Bool
  | .started _ k => k = h
  | _ => false

/-- Whether a run of the action comes back with a result. -/
def ends (h : Handle) : Deed → Bool
  | .ended _ k _ => k = h
  | _ => false

/-- The action that the one who holds the registry turns to. -/
def ownTurn? : Deed → Option Handle
  | .started none h => some h
  | .refused none h => some h
  | _ => none

end Deed

variable {I : Interface}

/-! ## What can be seen of an action -/

namespace Registry

/-- Whether the body of the action is claimed. -/
def hasRun (r : Registry I) (h : Handle) : Bool := (r.status? h).any ActionStatus.hasRun

/-- The name of the action. -/
def name? (r : Registry I) (h : Handle) : Option String := (r.status? h).map ActionStatus.name

theorem status?_isSome_iff {r : Registry I} {h : Handle} : (r.status? h).isSome ↔ h < r.size := by
  rw [status?, Option.isSome_map, size]
  simp

theorem status?_register (r : Registry I) (name : String) (body : Body I) (h : Handle) :
    (r.register name body).status? h = if h = r.size then some ⟨name, false⟩ else r.status? h := by
  show (r.actions ++ [⟨name, .unclaimed body⟩])[h]?.map Action.status = _
  by_cases hsize : h = r.size
  · rw [if_pos hsize, hsize, size, List.getElem?_append_right (Nat.le_refl _), Nat.sub_self]
    rfl
  · rw [if_neg hsize]
    by_cases hlt : h < r.actions.length
    · rw [List.getElem?_append_left hlt]
      rfl
    · have hnew : (r.actions ++ [⟨name, .unclaimed body⟩])[h]? = none := by
        rw [List.getElem?_eq_none_iff, List.length_append, List.length_singleton]
        exact Nat.lt_of_le_of_ne (Nat.le_of_not_lt hlt) fun h' => hsize h'.symm
      rw [hnew, status?, List.getElem?_eq_none (Nat.le_of_not_lt hlt)]

/-- A claim needs an action that was not claimed before, and it changes nothing else. -/
theorem status?_of_claim {r : Registry I} {h : Handle} {c : Claim I} (hc : r.claim? h = some c) :
    r.status? h = some ⟨c.name, false⟩ ∧
      ∀ k, c.rest.status? k = if k = h then some ⟨c.name, true⟩ else r.status? k := by
  unfold claim? at hc
  split at hc
  · rename_i name body ha
    obtain rfl := Option.some.inj hc
    refine ⟨?_, ?_⟩
    · rw [status?, ha]
      rfl
    · intro k
      show (r.actions.modify h Action.claim)[k]?.map Action.status = _
      rw [List.getElem?_modify]
      by_cases hk : k = h
      · subst hk
        rw [ha, if_pos rfl]
        simp [Action.claim, Action.status, Action.hasRun]
      · rw [if_neg hk, status?]
        simp [Ne.symm hk]
  · exact absurd hc (by simp)

/-- There is nothing to claim of an action that was claimed before, or of none. -/
theorem claim?_eq_none_iff {r : Registry I} {h : Handle} :
    r.claim? h = none ↔ h < r.size → r.hasRun h = true := by
  rw [← status?_isSome_iff, hasRun]
  cases hc : r.claim? h with
  | some c => simp [(status?_of_claim hc).1]
  | none =>
    simp only [true_iff]
    unfold claim? at hc
    split at hc
    · exact absurd hc (by simp)
    · rename_i hslot
      cases ha : r.actions[h]? with
      | none => simp [status?, ha]
      | some a =>
        obtain ⟨name, body | ⟨⟩⟩ := a
        · exact absurd ha (hslot name body)
        · simp [status?, ha, Action.status, Action.hasRun]

theorem hasRun_of_claim {r : Registry I} {h : Handle} {c : Claim I} (hc : r.claim? h = some c) :
    r.hasRun h = false ∧ ∀ k, c.rest.hasRun k = true ↔ k = h ∨ r.hasRun k = true := by
  obtain ⟨hstatus, hrest⟩ := status?_of_claim hc
  refine ⟨by rw [hasRun, hstatus]; rfl, fun k => ?_⟩
  rw [hasRun, hrest]
  by_cases hk : k = h
  · simp [hk]
  · rw [if_neg hk, hasRun]
    simp [hk]

theorem hasRun_register (r : Registry I) (name : String) (body : Body I) (h : Handle) :
    (r.register name body).hasRun h = r.hasRun h := by
  rw [hasRun, status?_register]
  split
  · rename_i hsize
    have hnone : r.status? h = none := by
      rw [← Option.not_isSome_iff_eq_none, status?_isSome_iff, hsize]
      exact Nat.lt_irrefl _
    rw [hasRun, hnone]
    rfl
  · rfl

theorem name?_of_claim {r : Registry I} {h : Handle} {c : Claim I} (hc : r.claim? h = some c) :
    r.name? h = some c.name ∧ ∀ k, c.rest.name? k = r.name? k := by
  obtain ⟨hstatus, hrest⟩ := status?_of_claim hc
  refine ⟨by rw [name?, hstatus]; rfl, fun k => ?_⟩
  rw [name?, hrest, name?]
  by_cases hk : k = h
  · rw [if_pos hk, hk, hstatus]
    rfl
  · rw [if_neg hk]

theorem lt_size_of_name? {r : Registry I} {h : Handle} {name : String}
    (hname : r.name? h = some name) : h < r.size := by
  rw [← status?_isSome_iff, ← Option.isSome_map, ← name?, hname]
  rfl

theorem name?_register {r : Registry I} {h : Handle} {n : String} (hn : r.name? h = some n)
    (name : String) (body : Body I) : (r.register name body).name? h = some n := by
  rw [name?, status?_register, if_neg (Nat.ne_of_lt (lt_size_of_name? hn))]
  exact hn

end Registry

/-! ## Steps -/

/-- How a body ends, if all that is left of it is its end. -/
def Body.ending? : Body I → Option (Outcome (Except Error Unit))
  | .finish result => some (.returned result)
  | .panic payload => some (.panicked payload)
  | _ => none

namespace ActionRun

variable {m m' : ActionRun I}

theorem step_of_ending {outcome : Outcome (Except Error Unit)}
    (h : m.body.ending? = some outcome) : m.step = m.finish (outcome.settle m.action) := by
  obtain ⟨r, name, body, waiting⟩ := m
  cases body <;> cases h <;> rfl

theorem step_of_invoke {h : Handle} {next : RunResult → Body I} (hbody : m.body = .invoke h next) :
    m.step = match m.registry.claim? h with
      | none => .running { m with body := next none }
      | some c => .running ⟨c.rest, c.name, c.body, ⟨m.action, next⟩ :: m.waiting⟩ := by
  obtain ⟨r, name, body, waiting⟩ := m
  subst hbody
  rfl

theorem exists_of_step_invoke {h : Handle} {next : RunResult → Body I}
    (hbody : m.body = .invoke h next) : ∃ m', m.step = .running m' := by
  rw [step_of_invoke hbody]
  split
  · exact ⟨_, rfl⟩
  · exact ⟨_, rfl⟩

/-- A run is over when its last body has ended. -/
theorem finished_of_step {result : Except Error Unit} {r : Registry I}
    (h : m.step = .finished result r) :
    m.waiting = [] ∧ r = m.registry ∧
      ∃ outcome, m.body.ending? = some outcome ∧ result = outcome.settle m.action := by
  cases hending : m.body.ending? with
  | some outcome =>
    rw [step_of_ending hending, finish] at h
    split at h
    · rename_i hwaiting
      obtain ⟨rfl, rfl⟩ := Step.finished.inj h
      exact ⟨hwaiting, rfl, outcome, rfl, rfl⟩
    · cases h
  | none =>
    -- an action whose body goes on takes no last step
    obtain ⟨registry, name, body, waiting⟩ := m
    cases body with
    | finish result => cases hending
    | panic payload => cases hending
    | ask query next => cases h
    | register n b next => cases h
    | inspect handle next => cases h
    | invoke handle next =>
      obtain ⟨m', hm'⟩ := exists_of_step_invoke
        (m := ⟨registry, name, .invoke handle next, waiting⟩) rfl
      cases hm'.symm.trans h

/-- The deeds of the next step of a run, and the actions whose bodies are in progress after it, from
those before it. The innermost body comes first. -/
def deeds (m : ActionRun I) : List Handle → List Deed × List Handle
  | [] => ([], [])
  | h :: outer =>
    match m.body with
    | .finish result => ([.ended outer.head? h (.returned result)], outer)
    | .panic payload => ([.ended outer.head? h (.panicked payload)], outer)
    | .register .. => ([.registered m.registry.size], h :: outer)
    | .invoke k _ =>
      match m.registry.claim? k with
      | none => ([.refused (some h) k], h :: outer)
      | some _ => ([.started (some h) k], k :: h :: outer)
    | _ => ([], h :: outer)

theorem deeds_of_ending {outcome : Outcome (Except Error Unit)}
    (h : m.body.ending? = some outcome) (current : Handle) (outer : List Handle) :
    m.deeds (current :: outer) = ([.ended outer.head? current outcome], outer) := by
  obtain ⟨r, name, body, waiting⟩ := m
  cases body <;> cases h <;> rfl

end ActionRun

/-- What one who could look inside would see of a registry. -/
inductive Moment (I : Interface) where
  | idle (registry : Registry I)
  /-- A run, and the actions whose bodies are in progress, innermost first. -/
  | running (run : ActionRun I) (handles : List Handle)

namespace Moment

def registry : Moment I → Registry I
  | idle r => r
  | running m _ => m.registry

def handles : Moment I → List Handle
  | idle _ => []
  | running _ handles => handles

/-- One step of a run, or of the one who holds the registry, with its deeds. -/
inductive Step : Moment I → List Deed → Moment I → Prop where
  | register (r : Registry I) (name : String) (body : Body I) :
    Step (idle r) [.registered r.size] (idle (r.register name body))
  | refuse {r : Registry I} {h : Handle} (hc : r.claim? h = none) :
    Step (idle r) [.refused none h] (idle r)
  | start {r : Registry I} {h : Handle} {c : Claim I} (hc : r.claim? h = some c) :
    Step (idle r) [.started none h] (running ⟨c.rest, c.name, c.body, []⟩ [h])
  | goOn {m m' : ActionRun I} (handles : List Handle) (hstep : m.step = .running m') :
    Step (running m handles) (m.deeds handles).1 (running m' (m.deeds handles).2)
  /-- A body asks its surroundings, which may reply anything. -/
  | ask {m : ActionRun I} {query : I.Query} {next : I.Reply query → ActionRun I}
      (handles : List Handle) (hstep : m.step = .asking query next) (reply : I.Reply query) :
    Step (running m handles) [] (running (next reply) handles)
  | finish {m : ActionRun I} {result : Except Error Unit} {r : Registry I} (handles : List Handle)
      (hstep : m.step = .finished result r) :
    Step (running m handles) (m.deeds handles).1 (idle r)

/-- Any number of steps, with their deeds in order. -/
inductive Path (start : Moment I) : List Deed → Moment I → Prop where
  | nil : Path start [] start
  | step {log more : List Deed} {a b : Moment I} (path : Path start log a) (step : Step a more b) :
    Path start (log ++ more) b

theorem Path.trans {a b c : Moment I} {log more : List Deed} (h : Path a log b)
    (h' : Path b more c) : Path a (log ++ more) c := by
  induction h' with
  | nil =>
    rw [List.append_nil]
    exact h
  | step _ step ih =>
    rw [← List.append_assoc]
    exact .step ih step

theorem Step.path {a b : Moment I} {log : List Deed} (h : Step a log b) : Path a log b :=
  .step .nil h

/-- The bodies of a run are those of the actions in progress. -/
def Aligned : Moment I → Prop
  | idle _ => True
  | running m handles =>
    handles.map m.registry.name? = (m.action :: m.waiting.map Frame.action).map some

/-! ## The five things that a step may do -/

/-- What a step does to a registry and to the actions whose bodies are in progress. -/
inductive Effect : Registry I → List Handle → List Deed → Registry I → List Handle → Prop where
  | silent (r : Registry I) (handles : List Handle) : Effect r handles [] r handles
  | register (r : Registry I) (handles : List Handle) (name : String) (body : Body I) :
    Effect r handles [.registered r.size] (r.register name body) handles
  | refuse {r : Registry I} {h : Handle} (handles : List Handle) (hc : r.claim? h = none) :
    Effect r handles [.refused handles.head? h] r handles
  | start {r : Registry I} {h : Handle} {c : Claim I} (handles : List Handle)
      (hc : r.claim? h = some c) :
    Effect r handles [.started handles.head? h] c.rest (h :: handles)
  | finish (r : Registry I) (h : Handle) (outer : List Handle)
      (outcome : Outcome (Except Error Unit)) :
    Effect r (h :: outer) [.ended outer.head? h outcome] r outer

section

variable {m m' : ActionRun I} {handles : List Handle}

/-- Some body is in progress, and the others wait for it. -/
theorem Aligned.cons (h : Aligned (running m handles)) :
    ∃ current outer, handles = current :: outer ∧ m.registry.name? current = some m.action ∧
      outer.map m.registry.name? = (m.waiting.map Frame.action).map some := by
  cases handles with
  | nil => exact absurd h (by simp [Aligned])
  | cons current outer =>
    obtain ⟨hname, houter⟩ := List.cons.inj h
    exact ⟨current, outer, rfl, hname, houter⟩

theorem Aligned.ne_nil (h : Aligned (running m handles)) : handles ≠ [] := by
  obtain ⟨current, outer, rfl, -⟩ := h.cons
  exact List.cons_ne_nil _ _

/-- A body that has ended gives way to the one that waits for it. -/
theorem Aligned.of_ending {outcome : Outcome (Except Error Unit)}
    (h : Aligned (running m handles)) (hending : m.body.ending? = some outcome)
    (hstep : m.step = .running m') :
    Effect m.registry handles (m.deeds handles).1 m'.registry (m.deeds handles).2 ∧
      Aligned (running m' (m.deeds handles).2) := by
  obtain ⟨current, outer, rfl, hname, houter⟩ := h.cons
  rw [ActionRun.step_of_ending hending, ActionRun.finish] at hstep
  rw [ActionRun.deeds_of_ending hending]
  split at hstep
  · cases hstep
  · rename_i frame waiting hwaiting
    cases hstep
    rw [hwaiting] at houter
    exact ⟨.finish _ _ _ _, houter⟩

theorem Aligned.register {r : Registry I} {name : String} {body : Body I}
    {waiting : List (Frame I)} (h : Aligned (running ⟨r, name, body, waiting⟩ handles))
    (n : String) (b next : Body I) :
    Aligned (running ⟨r.register n b, name, next, waiting⟩ handles) := by
  refine (List.map_congr_left fun k hk => ?_).trans h
  -- a name that is there stays
  obtain ⟨name', -, hname'⟩ := List.mem_map.mp (h ▸ List.mem_map_of_mem hk)
  rw [← hname']
  exact Registry.name?_register hname'.symm n b

/-- A body goes on, or gives way to another one. -/
theorem Aligned.goOn (ha : Aligned (running m handles)) (hstep : m.step = .running m') :
    Effect m.registry handles (m.deeds handles).1 m'.registry (m.deeds handles).2 ∧
      Aligned (running m' (m.deeds handles).2) := by
  obtain ⟨current, outer, rfl, -⟩ := ha.cons
  obtain ⟨r, name, body, waiting⟩ := m
  cases body with
  | finish result => exact ha.of_ending rfl hstep
  | panic payload => exact ha.of_ending rfl hstep
  | ask query next => cases hstep
  | register n b next =>
    cases hstep
    exact ⟨.register r _ n b, ha.register n b _⟩
  | inspect h next =>
    cases hstep
    exact ⟨.silent _ _, ha⟩
  | invoke h next =>
    rw [ActionRun.step_of_invoke rfl] at hstep
    dsimp only [ActionRun.deeds]
    cases hc : r.claim? h with
    | none =>
      rw [hc] at hstep
      cases hstep
      exact ⟨.refuse _ hc, ha⟩
    | some c =>
      rw [hc] at hstep
      cases hstep
      refine ⟨.start _ hc, ?_⟩
      -- a claim takes the body out and leaves every name, so the names below stay in line
      obtain ⟨hnew, hrest⟩ := Registry.name?_of_claim hc
      have hsame : c.rest.name? = r.name? := funext hrest
      simp only [Aligned, List.map_cons, hsame, hnew]
      exact congrArg (_ :: ·) ha

end

theorem Step.effect {a b : Moment I} {log : List Deed} (h : Step a log b) (ha : a.Aligned) :
    Effect a.registry a.handles log b.registry b.handles ∧ b.Aligned := by
  cases h with
  | register r name body => exact ⟨.register r [] name body, trivial⟩
  | refuse hc => exact ⟨.refuse [] hc, trivial⟩
  | start hc =>
    refine ⟨.start [] hc, ?_⟩
    obtain ⟨hname, hrest⟩ := Registry.name?_of_claim hc
    simp only [Aligned, List.map_cons, List.map_nil, hrest, hname]
  | goOn handles hstep => exact ha.goOn hstep
  | @ask m query next handles hstep reply =>
    obtain ⟨r, name, body, waiting⟩ := m
    cases body with
    | finish result => exact absurd hstep (ActionRun.finish_ne_asking _ _ _ _)
    | panic payload => exact absurd hstep (ActionRun.finish_ne_asking _ _ _ _)
    | ask query' next' =>
      cases hstep
      exact ⟨.silent _ _, ha⟩
    | register n b next => cases hstep
    | inspect h next => cases hstep
    | invoke h next =>
      obtain ⟨m', hm'⟩ := ActionRun.exists_of_step_invoke
        (m := ⟨r, name, .invoke h next, waiting⟩) rfl
      cases hm'.symm.trans hstep
  | @finish m result r' handles hstep =>
    obtain ⟨hwaiting, rfl, outcome, hending, -⟩ := ActionRun.finished_of_step hstep
    obtain ⟨current, outer, rfl, -, houter⟩ := ha.cons
    rw [hwaiting] at houter
    obtain rfl := List.map_eq_nil_iff.mp houter
    rw [ActionRun.deeds_of_ending hending]
    exact ⟨.finish _ _ _ _, trivial⟩

theorem Path.aligned {a b : Moment I} {log : List Deed} (h : Path a log b) (ha : a.Aligned) :
    b.Aligned := by
  induction h with
  | nil => exact ha
  | step _ step ih => exact (step.effect ih).2

namespace Effect

variable {r r' : Registry I} {handles handles' : List Handle} {log : List Deed}

theorem name? (h : Effect r handles log r' handles') {k : Handle} {n : String}
    (hn : r.name? k = some n) : r'.name? k = some n := by
  cases h with
  | silent => exact hn
  | register _ name body => exact Registry.name?_register hn name body
  | refuse => exact hn
  | start _ hc => exact ((Registry.name?_of_claim hc).2 k).trans hn
  | finish => exact hn

/-- While a body is in progress, bodies ask for the runs, and the outermost body stays until it is
the only one and ends. -/
theorem inside (h : Effect r handles log r' handles') (hne : handles' ≠ []) (hne' : handles ≠ []) :
    (∀ d ∈ log, d.ownTurn? = none) ∧ handles'.getLast? = handles.getLast? := by
  obtain ⟨current, outer, rfl⟩ := List.exists_cons_of_ne_nil hne'
  cases h with
  | silent => exact ⟨by simp, rfl⟩
  | register => exact ⟨by simp [Deed.ownTurn?], rfl⟩
  | refuse => exact ⟨by simp [Deed.ownTurn?], rfl⟩
  | start => exact ⟨by simp [Deed.ownTurn?], rfl⟩
  | finish =>
    obtain ⟨next, outer, rfl⟩ := List.exists_cons_of_ne_nil hne
    exact ⟨by simp [Deed.ownTurn?], rfl⟩

end Effect

theorem Path.name? {a b : Moment I} {log : List Deed} (h : Path a log b) (ha : a.Aligned)
    {k : Handle} {n : String} (hn : a.registry.name? k = some n) :
    b.registry.name? k = some n := by
  induction h with
  | nil => exact hn
  | step path step ih => exact (step.effect (path.aligned ha)).1.name? ih

end Moment

end BuildTrial
