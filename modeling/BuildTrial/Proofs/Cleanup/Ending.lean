import BuildTrial.Proofs.Cleanup.Once
import Mathlib.Order.WellFounded

/-!
# Every run comes to its end

Bodies may run each other in circles and register further actions while they run, so no body is smaller
than the one that runs it. What gets smaller is all that a run still has to do (`ActionRun.Smaller`): a
run claims a body before it starts it, so a circle meets an action that is claimed, and a body that is
registered is a part of the one that registers it. Hence `Moment.idle_again`: however long one goes on
taking steps, the registry is idle again and again.

How many bodies are started is a matter of books that balance (`Moment.Path.begins_add`). A registered
action is to be run or has been started, and a start takes one from the first kind to the second.
-/

namespace BuildTrial

variable {I : Interface}

namespace Deed

/-- Whether a body begins. -/
def begins : Deed → Bool
  | .started .. => true
  | _ => false

/-- Whether an action is registered. -/
def registers : Deed → Bool
  | .registered _ => true
  | _ => false

end Deed

namespace Registry

variable {r : Registry I} {h : Handle} {c : Claim I}

theorem size_claim (hc : r.claim? h = some c) : c.rest.size = r.size := by
  unfold claim? at hc
  split at hc
  · obtain rfl := Option.some.inj hc
    simp [size]
  · exact absurd hc (by simp)

theorem size_register (r : Registry I) (name : String) (body : Body I) :
    (r.register name body).size = r.size + 1 := by
  simp [size, register]

theorem length_pending_le (r : Registry I) : r.pending.length ≤ r.size :=
  List.length_filterMap_le _ _

end Registry

namespace Moment

/-! ## The books -/

namespace Effect

variable {r r' : Registry I} {handles handles' : List Handle} {log : List Deed}

theorem size_eq (h : Effect r handles log r' handles') :
    r'.size = r.size + log.countP Deed.registers := by
  cases h with
  | silent => simp
  | register _ name body => simp [Registry.size_register, Deed.registers]
  | refuse => simp [Deed.registers]
  | start _ hc => simp [Registry.size_claim hc, Deed.registers]
  | finish => simp [Deed.registers]

theorem begins_add (h : Effect r handles log r' handles') :
    log.countP Deed.begins + r'.pending.length = r.pending.length + log.countP Deed.registers := by
  cases h with
  | silent => simp
  | register _ name body => simp [Registry.pending_register, Deed.begins, Deed.registers]
  | refuse => simp [Deed.begins, Deed.registers]
  | start _ hc =>
    have hlength := (Registry.pending_claim hc).length_eq
    rw [List.length_cons] at hlength
    simp [hlength, Deed.begins, Deed.registers, Nat.add_comm]
  | finish => simp [Deed.begins, Deed.registers]

end Effect

namespace Path

variable {a b : Moment I} {log : List Deed}

theorem size_eq (h : Path a log b) (ha : a.Aligned) :
    b.registry.size = a.registry.size + log.countP Deed.registers := by
  induction h with
  | nil => simp
  | step path step ih =>
    have hstep := (step.effect (path.aligned ha)).1.size_eq
    rw [List.countP_append]
    omega

theorem begins_add (h : Path a log b) (ha : a.Aligned) :
    log.countP Deed.begins + b.registry.pending.length =
      a.registry.pending.length + log.countP Deed.registers := by
  induction h with
  | nil => simp
  | step path step ih =>
    have hstep := (step.effect (path.aligned ha)).1.begins_add
    rw [List.countP_append, List.countP_append]
    omega

end Path

/-! ## No run is endless -/

/-- A step that does not end a run leaves it with less to do. -/
theorem Step.smaller {m m' : ActionRun I} {handles handles' : List Handle} {log : List Deed}
    (h : Step (running m handles) log (running m' handles')) : ActionRun.Smaller m' m := by
  cases h with
  | goOn _ hstep => exact ActionRun.smaller_of_step hstep
  | ask _ hstep reply => exact ActionRun.smaller_of_asking hstep reply

/-- Whoever takes step after step, with any replies, finds the registry idle again and again. -/
theorem idle_again {moments : Nat → Moment I}
    (hsteps : ∀ n, ∃ log, Step (moments n) log (moments (n + 1))) (n : Nat) :
    ∃ k r, n ≤ k ∧ moments k = idle r := by
  by_contra hnever
  have hrunning : ∀ i, ∃ m handles, moments (n + i) = running m handles := by
    intro i
    cases hmoment : moments (n + i) with
    | idle r => exact absurd ⟨n + i, r, Nat.le_add_right n i, hmoment⟩ hnever
    | running m handles => exact ⟨m, handles, rfl⟩
  choose m handles hmoment using hrunning
  have hsmaller : ∀ i, ActionRun.Smaller (m (i + 1)) (m i) := by
    intro i
    obtain ⟨log, hstep⟩ := hsteps (n + i)
    rw [hmoment i, Nat.add_assoc, hmoment (i + 1)] at hstep
    exact hstep.smaller
  have hwf : WellFounded (ActionRun.Smaller (I := I)) := WellFoundedRelation.wf
  exact (wellFounded_iff_isEmpty_descending_chain.mp hwf).false ⟨m, hsmaller⟩

/-! ## All calls -/

/-- Whatever the bodies do, at every moment after any calls on a registry no more bodies were started
than actions were ever registered: of those that were there or came since, each is still to be run or
was started. Steps never go on for ever without the registry being idle again. And whenever it is idle,
every further call comes back from any surroundings, the run of a handle after one turn and a pass
after one turn for each action that it found. -/
theorem runs_end {r₀ : Registry I} {log : List Deed} {a : Moment I} (path : Path (.idle r₀) log a) :
    (log.countP Deed.begins ≤ a.registry.size ∧
      a.registry.size = r₀.size + log.countP Deed.registers ∧
      log.countP Deed.begins + a.registry.pending.length =
        r₀.pending.length + log.countP Deed.registers) ∧
    (∀ moments : Nat → Moment I, (∀ n, ∃ more, Step (moments n) more (moments (n + 1))) →
      ∀ n, ∃ k r, n ≤ k ∧ moments k = .idle r) ∧
    ∀ r, a = .idle r → ∀ (call : Call I) {σ : Type} (reply : (q : I.Query) → σ → I.Reply q × σ)
      (s : σ), ∃ answer r' more, ((r.answer call).run reply s).1 = .returned (answer, r') ∧
        r.Answered call answer more r' ∧ Path (.idle r₀) (log ++ more) (.idle r') := by
  have hsize : a.registry.size = r₀.size + log.countP Deed.registers := path.size_eq trivial
  have hbegins : log.countP Deed.begins + a.registry.pending.length =
      r₀.pending.length + log.countP Deed.registers := path.begins_add trivial
  have hpending := r₀.length_pending_le
  refine ⟨⟨by omega, hsize, hbegins⟩, fun moments hsteps n => idle_again hsteps n, ?_⟩
  · rintro r rfl call σ reply s
    obtain ⟨answer, more, r', houtcome, answered⟩ :=
      Registry.answered_of_runs (Program.runs_trace reply (r.answer call) s)
    exact ⟨answer, r', more, houtcome, answered, path.trans answered.path⟩

/-- Two actions that run each other, the older one also itself after it registered a third. A call by
hand of the newer one starts both and neither twice, and a pass is still to come back. -/
theorem runs_end_circle :
    ∃ (log : List Deed) (r : Registry planeInterface.timed),
      log = [.registered 0, .registered 1, .started none 1, .started (some 1) 0,
        .registered 2, .refused (some 0) 1, .refused (some 0) 0,
        .ended (some 1) 0 (.returned (.ok ())), .ended none 1 (.returned (.ok ()))] ∧
      Path (.idle {}) log (.idle r) ∧ log.countP Deed.begins = 2 ∧ r.size = 3 ∧
      ∀ {σ : Type} (reply : (q : planeInterface.timed.Query) → σ →
          planeInterface.timed.Reply q × σ) (s : σ),
        ∃ report r' more, ((r.answer (.runAll false)).run reply s).1 =
            .returned (.report report, r') ∧
          r.Answered (.runAll false) (.report report) more r' := by
  let third : Body planeInterface.timed := .finish (.ok ())
  let older : Body planeInterface.timed :=
    .register "third" third fun _ => .invoke 1 fun _ => .invoke 0 fun _ => .finish (.ok ())
  let newer : Body planeInterface.timed := .invoke 0 fun _ => .finish (.ok ())
  have registered := (Step.register {} "older" older).path.step (.register _ "newer" newer)
  have started := registered.step (.start (h := 1) rfl)
  have nested := (started.step (.goOn [1] rfl)).step (.goOn [0, 1] rfl)
  have refused := (nested.step (.goOn [0, 1] rfl)).step (.goOn [0, 1] rfl)
  have path := (refused.step (.goOn [0, 1] rfl)).step (.finish [1] rfl)
  refine ⟨_, _, rfl, path, rfl, rfl, fun reply s => ?_⟩
  obtain ⟨answer, r', more, houtcome, answered, -⟩ :=
    (runs_end path).2.2 _ rfl (.runAll false) reply s
  cases answered with
  | pass hturns => exact ⟨_, r', more, houtcome, .pass hturns⟩

end Moment

end BuildTrial
