import BuildTrial.Cleanup.Body

/-!
# The registry of teardown actions

Every action is run at most once: a run claims the body, and an action whose body is claimed stays
so. A body may call back into the registry while it runs, so the bodies that wait for one another
form a stack (`ActionRun`). Each step of such a run replaces one load by smaller ones, which is why
`ActionRun.exec` ends however the bodies call each other.
-/

namespace BuildTrial

/-- Where an action stands: its body is there to be claimed, or it was claimed. -/
inductive Slot (I : Interface) : Type where
  | unclaimed (body : Body I)
  | claimed

structure Action (I : Interface) : Type where
  name : String
  slot : Slot I

namespace Action

variable {I : Interface}

def hasRun (a : Action I) : Bool :=
  match a.slot with
  | .unclaimed _ => false
  | .claimed => true

def status (a : Action I) : ActionStatus := ⟨a.name, a.hasRun⟩

/-- The body that is still to be run. -/
def body? (a : Action I) : Option (Body I) :=
  match a.slot with
  | .unclaimed body => some body
  | .claimed => none

def claim (a : Action I) : Action I := { a with slot := .claimed }

end Action

/-- The actions of a trial, in the order of their registration. -/
structure Registry (I : Interface) : Type where
  actions : List (Action I) := []

/-- What a claim hands out: the name and the body of the action, and the registry without it. -/
structure Claim (I : Interface) : Type where
  name : String
  body : Body I
  rest : Registry I

namespace Registry

variable {I : Interface}

def size (r : Registry I) : Nat := r.actions.length

def register (r : Registry I) (name : String) (body : Body I) : Registry I :=
  ⟨r.actions ++ [⟨name, .unclaimed body⟩]⟩

def status? (r : Registry I) (h : Handle) : Option ActionStatus := r.actions[h]?.map Action.status

/-- Claim the body of an action, unless it is claimed or there is no such action. -/
def claim? (r : Registry I) (h : Handle) : Option (Claim I) :=
  match r.actions[h]? with
  | some ⟨name, .unclaimed body⟩ => some ⟨name, body, ⟨r.actions.modify h Action.claim⟩⟩
  | _ => none

/-- The bodies that are still to be run. -/
def pending (r : Registry I) : List (Body I) := r.actions.filterMap Action.body?

/-- A claim takes exactly its body away. -/
theorem pending_claim {r : Registry I} {h : Handle} {c : Claim I} (hc : r.claim? h = some c) :
    r.pending.Perm (c.body :: c.rest.pending) := by
  unfold claim? at hc
  split at hc
  · rename_i name body ha
    obtain rfl := Option.some.inj hc
    obtain ⟨hlt, ha⟩ := List.getElem?_eq_some_iff.1 ha
    -- the list is what is before the claimed action, the action, and what is after it
    have hsplit : r.pending = (r.actions.take h).filterMap Action.body? ++
        body :: (r.actions.drop (h + 1)).filterMap Action.body? := by
      conv =>
        lhs
        rw [pending, ← List.take_append_drop h r.actions, ← List.getElem_cons_drop hlt, ha]
      simp [Action.body?]
    rw [hsplit]
    show List.Perm _ (body :: (r.actions.modify h Action.claim).filterMap Action.body?)
    rw [List.modify_eq_take_cons_drop hlt]
    simp only [List.filterMap_append, List.filterMap_cons, Action.claim, Action.body?]
    exact List.perm_middle
  · exact absurd hc (by simp)

theorem pending_register (r : Registry I) (name : String) (body : Body I) :
    (r.register name body).pending = r.pending ++ [body] := by
  simp [pending, register, Action.body?]

end Registry

/-- A body that waits for the end of the run it asked for. -/
structure Frame (I : Interface) : Type where
  /-- The action that the waiting body belongs to. -/
  action : String
  next : RunResult → Body I

structure ActionRun (I : Interface) : Type where
  registry : Registry I
  /-- The action whose body is running. -/
  action : String
  body : Body I
  /-- The bodies that wait, innermost first. -/
  waiting : List (Frame I)

namespace ActionRun

variable {I : Interface}

inductive Step (I : Interface) : Type where
  | finished (result : Except Error Unit) (registry : Registry I)
  | running (run : ActionRun I)
  | asking (query : I.Query) (next : I.Reply query → ActionRun I)

/-- The running body has ended: hand the result to the body that waits for it. -/
def finish (m : ActionRun I) (result : Except Error Unit) : Step I :=
  match m.waiting with
  | [] => .finished result m.registry
  | frame :: waiting =>
    .running { m with action := frame.action, body := frame.next (some result), waiting }

def step (m : ActionRun I) : Step I :=
  match m.body with
  | .finish result => m.finish result
  | .panic payload => m.finish (.error (.ofPanic m.action payload))
  | .ask query next => .asking query fun reply => { m with body := next reply }
  | .register name body next =>
    .running { m with registry := m.registry.register name body, body := next m.registry.size }
  | .inspect handle next => .running { m with body := next (m.registry.status? handle) }
  | .invoke handle next =>
    match m.registry.claim? handle with
    | none => .running { m with body := next none }
    -- the claimed body runs in place of this one, which waits for its result
    | some claim =>
      .running
        { registry := claim.rest, action := claim.name, body := claim.body
          waiting := ⟨m.action, next⟩ :: m.waiting }

def loads (m : ActionRun I) : List (Load I) :=
  .body m.body :: m.waiting.map (fun frame => .waiting frame.next) ++
    m.registry.pending.map .body

/-- A run is below the one that it came from. -/
def Smaller (m m' : ActionRun I) : Prop := Relation.TransGen (Replaced Load.Below) m.loads m'.loads

instance : WellFoundedRelation (ActionRun I) where
  rel := Smaller
  wf := InvImage.wf loads (Replaced.wellFounded Load.wellFounded_below).transGen

/-- The running body goes on with a smaller one. -/
theorem smaller_of_below {m : ActionRun I} {b : Body I} (h : Load.Below (.body b) (.body m.body)) :
    Smaller { m with body := b } m :=
  .single (.mk [.body b] (.refl _) (.refl _) (by simpa using h))

/-- A body that ended is gone, and the one that waited for it goes on. -/
theorem smaller_of_finish {m m' : ActionRun I} {result : Except Error Unit}
    (h : m.finish result = .running m') : Smaller m' m := by
  unfold finish at h
  split at h
  · exact absurd h (by simp)
  · rename_i frame waiting hw
    obtain rfl := Step.running.inj h
    have hloads : m.loads = .body m.body :: .waiting frame.next ::
        (waiting.map (fun frame => .waiting frame.next) ++ m.registry.pending.map .body) := by
      rw [loads, hw]
      rfl
    rw [Smaller, hloads]
    -- the waiting load goes on first, then the load that has ended disappears
    refine .trans (.single (.mk [.body (frame.next (some result))] (.refl _) (.refl _) ?_))
      (.single (.mk [] (.refl _) (.refl _) (by simp)))
    simpa using Load.Below.resumed frame.next (some result)

theorem smaller_of_step {m m' : ActionRun I} (h : m.step = .running m') : Smaller m' m := by
  unfold step at h
  split at h
  · exact smaller_of_finish h
  · exact smaller_of_finish h
  · exact absurd h (by simp)
  · rename_i name body next hb
    obtain rfl := Step.running.inj h
    -- the body is replaced by its continuation and by the body that it registered
    refine .single (.mk (x := .body m.body) [.body (next m.registry.size), .body body]
      (.refl _) ?_ ?_)
    · simp only [loads, Registry.pending_register, List.map_append, List.map_cons, List.map_nil,
        List.cons_append, List.nil_append, ← List.append_assoc]
      exact .cons _ (List.perm_append_singleton _ _)
    · rw [hb]
      simp [Load.Below.registered, Load.Below.handed]
  · rename_i handle next hb
    obtain rfl := Step.running.inj h
    exact smaller_of_below (hb ▸ .inspected handle next _)
  · rename_i handle next hb
    split at h
    · obtain rfl := Step.running.inj h
      exact smaller_of_below (hb ▸ .refused handle next none)
    · rename_i claim hc
      obtain rfl := Step.running.inj h
      -- the claimed body moves from the registry to the front, and its caller starts to wait
      refine .single (.mk (x := .body m.body) [.waiting next] (.refl _) ?_ ?_)
      · have hp := (Registry.pending_claim hc).map Load.body
        refine (List.Perm.swap _ _ _).trans (.cons _ ?_)
        exact List.perm_middle.symm.trans (hp.symm.append_left _)
      · rw [hb]
        simp [Load.Below.suspended]

/-- The end of a body asks nothing. -/
theorem finish_ne_asking (m : ActionRun I) (result : Except Error Unit) (query : I.Query)
    (next : I.Reply query → ActionRun I) : m.finish result ≠ .asking query next := by
  unfold finish
  split <;> simp

/-- Every reply to a question leaves less to do. -/
theorem smaller_of_asking {m : ActionRun I} {query : I.Query} {next : I.Reply query → ActionRun I}
    (h : m.step = .asking query next) (reply : I.Reply query) : Smaller (next reply) m := by
  unfold step at h
  split at h
  · exact absurd h (finish_ne_asking _ _ _ _)
  · exact absurd h (finish_ne_asking _ _ _ _)
  · rename_i hb
    cases h
    exact smaller_of_below (hb ▸ .answered _ _ reply)
  · exact absurd h (by simp)
  · exact absurd h (by simp)
  · split at h <;> exact absurd h (by simp)

/-- Carry a run to its end. -/
def exec (m : ActionRun I) : Program I (Except Error Unit × Registry I) :=
  match h : m.step with
  | .finished result registry => .done (result, registry)
  | .running m' =>
    have := smaller_of_step h
    exec m'
  | .asking query next => .ask query fun reply =>
    have := smaller_of_asking h reply
    exec (next reply)
termination_by m

end ActionRun

end BuildTrial
