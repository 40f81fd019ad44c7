import BuildTrial.Proofs.Program.Trace
import BuildTrial.Scenario.Phases

/-!
# Reasoning about the phases

The phases of a scenario are programs with three ways out: an answer, an error, a panic. Whichever it
is, what they have asked the control plane by then and how far they have come (`Progress`) is what
the teardown and the reader of the log have to live with.

`Phased.Leads pre x post stop` is the Hoare triple for that. Assertions speak of the trace of the
control plane so far and of the progress; `post` is for an answer and `stop` for the other two ways
out. One rule for each way to put phases together, and no proof below needs `Phased.track` again.
-/

namespace BuildTrial

/-- A question to the control plane, or one about time and chance, with its reply. -/
abbrev PlaneEvent : Type := Event planeInterface.timed

abbrev PlaneTrace : Type := Trace planeInterface.timed

/-- An event at one store, seen from the control plane. -/
def Event.onPlane (kind : Kind) : Event (storeInterface kind.Model).timed → PlaneEvent
  | ⟨.call call, reply⟩ => ⟨.call (.store kind call), reply⟩
  | ⟨.sleep span, reply⟩ => ⟨.sleep span, reply⟩
  | ⟨.now, reply⟩ => ⟨.now, reply⟩
  | ⟨.jitter, reply⟩ => ⟨.jitter, reply⟩
  | ⟨.pick last, reply⟩ => ⟨.pick last, reply⟩

section

variable {α β : Type}

/-- What a program for one store asks, it asks the control plane about that store. -/
theorem runs_onStore_iff {kind : Kind} {p : StoreProgram kind.Model α} {t : PlaneTrace}
    {o : Outcome α} :
    (onStore kind p).Runs t o ↔ ∃ s, p.Runs s o ∧ t = s.map (Event.onPlane kind) := by
  induction p generalizing t with
  | done a =>
    simp only [onStore, Program.within, Program.interpret, Program.runs_done_iff]
    constructor
    · rintro ⟨rfl, rfl⟩
      exact ⟨[], ⟨rfl, rfl⟩, rfl⟩
    · rintro ⟨_, ⟨rfl, rfl⟩, rfl⟩
      exact ⟨rfl, rfl⟩
  | panic payload =>
    simp only [onStore, Program.within, Program.interpret, Program.runs_panic_iff]
    constructor
    · rintro ⟨rfl, rfl⟩
      exact ⟨[], ⟨rfl, rfl⟩, rfl⟩
    · rintro ⟨_, ⟨rfl, rfl⟩, rfl⟩
      exact ⟨rfl, rfl⟩
  | ask query next ih =>
    -- every question is passed on as one question, so the traces have equal length
    constructor
    · intro h
      cases query <;>
        · obtain ⟨r, t', rfl, hnext⟩ := Program.runs_ask_iff.mp h
          obtain ⟨s, hs, rfl⟩ := (ih r).mp hnext
          exact ⟨_, @Program.Runs.ask _ _ _ next r _ _ hs, rfl⟩
    · rintro ⟨_, h, rfl⟩
      obtain ⟨r, s, rfl, hnext⟩ := Program.runs_ask_iff.mp h
      cases query <;> exact Program.runs_ask_iff.mpr ⟨r, _, rfl, (ih r).mpr ⟨s, hnext, rfl⟩⟩

theorem asks_onStore {kind : Kind} {p : StoreProgram kind.Model α} {P : PlaneEvent → Prop}
    (h : p.Asks fun e => P (e.onPlane kind)) : (onStore kind p).Asks P := by
  intro t o hr
  obtain ⟨s, hs, rfl⟩ := runs_onStore_iff.mp hr
  exact List.forall_mem_map.mpr (h s o hs)

theorem asks_now_bind {f : Instant → PlaneProgram α} {P : PlaneEvent → Prop}
    (hnow : ∀ instant, P ⟨.now, instant⟩) (hf : ∀ instant, (f instant).Asks P) :
    (Program.now.bind f).Asks P :=
  Program.asks_ask hnow hf

/-- What an early end of a part of the phases is an end with. -/
def Outcome.stopping : Outcome Error → Outcome (Except Error α)
  | .returned e => .returned (.error e)
  | .panicked payload => .panicked payload

theorem Outcome.stopping_inj {stop stop' : Outcome Error}
    (h : (stop.stopping : Outcome (Except Error α)) = stop'.stopping) : stop = stop' := by
  cases stop <;> cases stop' <;> simp_all [stopping]

theorem Outcome.stopping_ne_ok (stop : Outcome Error) (a : α) : stop.stopping ≠ .returned (.ok a) := by
  cases stop <;> simp [stopping]

namespace Phased

/-! ## What tracking does to the parts -/

theorem track_bind (p : Program phaseInterface.timed α) (f : α → Program phaseInterface.timed β)
    (q : Progress) :
    track (p.bind f) q = (track p q).bind fun
      | (.returned a, q') => track (f a) q'
      | (.panicked payload, q') => .done (.panicked payload, q') := by
  induction p generalizing q with
  | done a => rfl
  | panic payload => rfl
  | ask query next ih =>
    rcases query with step | _ | _ | _ | _
    · cases step <;> simp only [Program.bind, track, ih]
    all_goals simp only [Program.bind, track, ih]

theorem track_now_bind (f : Instant → Phased α) (q : Progress) :
    track (Phased.now >>= f).run q = Program.now.bind fun now => track (f now).run q := rfl

/-- A sequence is tracked part by part; what ends the first part early ends it all. -/
theorem runs_track_bind {x : Phased α} {f : α → Phased β} {q q' : Progress} {t : PlaneTrace}
    {o : Outcome (Except Error β)} (h : (track (x >>= f).run q).Runs t (.returned (o, q'))) :
    (∃ t₁ a q₁ t₂, t = t₁ ++ t₂ ∧ (track x.run q).Runs t₁ (.returned (.returned (.ok a), q₁)) ∧
        (track (f a).run q₁).Runs t₂ (.returned (o, q'))) ∨
      ∃ stop : Outcome Error, (track x.run q).Runs t (.returned (stop.stopping, q')) ∧
        o = stop.stopping := by
  change (track (x.run.bind (ExceptT.bindCont f)) q).Runs t _ at h
  rw [track_bind] at h
  rcases Program.runs_bind_iff.mp h with ⟨t₁, ⟨ending, q₁⟩, t₂, rfl, h₁, h₂⟩ | ⟨_, _, h₂⟩
  · rcases ending with (e | a) | payload
    · obtain ⟨rfl, ho⟩ := Program.runs_done_iff.mp h₂
      cases ho
      rw [List.append_nil]
      exact .inr ⟨.returned e, h₁, rfl⟩
    · exact .inl ⟨t₁, a, q₁, t₂, rfl, h₁, h₂⟩
    · obtain ⟨rfl, ho⟩ := Program.runs_done_iff.mp h₂
      cases ho
      rw [List.append_nil]
      exact .inr ⟨.panicked payload, h₁, rfl⟩
  · cases h₂

/-- A part that works on one store leaves the progress alone. -/
theorem track_onStore {kind : Kind} (p : StoreProgram kind.Model (Except Error α)) (q : Progress) :
    track (Phased.onStore kind p).run q =
      (BuildTrial.onStore kind p).attempt.bind fun o => .done (o, q) := by
  show track (p.within _) q = (Program.within _ p).attempt.bind _
  induction p with
  | done a => rfl
  | panic payload => rfl
  | ask query next ih =>
    cases query <;>
      exact congrArg (Program.ask _) (funext fun r => ih r)

/-- Tracked phases always come back; their panics are a part of the answer. -/
theorem exists_of_runs_track {p : Program phaseInterface.timed α} {q : Progress} {t : PlaneTrace}
    {o : Outcome (Outcome α × Progress)} (h : (track p q).Runs t o) :
    ∃ ending q', o = .returned (ending, q') := by
  induction p generalizing q t with
  | done a => exact ⟨_, _, (Program.runs_done_iff.mp h).2⟩
  | panic payload => exact ⟨_, _, (Program.runs_done_iff.mp h).2⟩
  | ask query next ih =>
    rcases query with step | _ | _ | _ | _
    · cases step with
      | call call =>
        obtain ⟨r, t', -, h⟩ := Program.runs_ask_iff.mp h
        exact ih r h
      | enter phase => exact ih () h
      | register undo => exact ih () h
    all_goals
      obtain ⟨r, t', -, h⟩ := Program.runs_ask_iff.mp h
      exact ih r h

/-! ## The triple -/

/-- What may be said of the trace and the progress at some point of the phases. -/
abbrev Assertion : Type := PlaneTrace → Progress → Prop

/-- What holds at the end of a part: `post` after an answer, `stop` after an error or a panic. -/
def Ended (post : α → Assertion) (stop : Outcome Error → Assertion) :
    Outcome (Except Error α) → Assertion
  | .returned (.ok a) => post a
  | .returned (.error e) => stop (.returned e)
  | .panicked payload => stop (.panicked payload)

/-- From a point where `pre` holds, `x` leads to one where `post` holds, or stops at one where
`stop` does. -/
def Leads (pre : Assertion) (x : Phased α) (post : α → Assertion)
    (stop : Outcome Error → Assertion) : Prop :=
  ∀ h q, pre h q → ∀ t o q', (track x.run q).Runs t (.returned (o, q')) →
    Ended post stop o (h ++ t) q'

variable {pre : Assertion} {post : α → Assertion} {stop : Outcome Error → Assertion}

theorem leads_pure {a : α} (h : ∀ t q, pre t q → post a t q) :
    Leads pre (pure a : Phased α) post stop := by
  intro t q hpre t' o q' hr
  obtain ⟨rfl, ho⟩ := Program.runs_done_iff.mp hr
  cases ho
  simpa [Ended] using h t q hpre

theorem leads_throw {e : Error} (h : ∀ t q, pre t q → stop (.returned e) t q) :
    Leads pre (throw e : Phased α) post stop := by
  intro t q hpre t' o q' hr
  obtain ⟨rfl, ho⟩ := Program.runs_done_iff.mp hr
  cases ho
  simpa [Ended] using h t q hpre

/-- From nowhere everything follows; what comes after a `throw` is there. -/
theorem leads_of_false {x : Phased α} : Leads (fun _ _ => False) x post stop :=
  fun _ _ hpre => hpre.elim

theorem leads_of_exists {ι : Type} {x : Phased α} {pre : ι → Assertion}
    (h : ∀ i, Leads (pre i) x post stop) : Leads (fun t q => ∃ i, pre i t q) x post stop :=
  fun t q hpre => hpre.elim fun i hi => h i t q hi

theorem leads_of_and {p : Prop} {x : Phased α} (h : p → Leads pre x post stop) :
    Leads (fun t q => pre t q ∧ p) x post stop :=
  fun t q hpre => h hpre.2 t q hpre.1

/-- `m` is what holds in the middle. -/
theorem leads_bind {x : Phased α} {f : α → Phased β} {m : α → Assertion} {post : β → Assertion}
    (hx : Leads pre x m stop) (hf : ∀ a, Leads (m a) (f a) post stop) :
    Leads pre (x >>= f) post stop := by
  intro h q hpre t o q' hr
  rcases runs_track_bind hr with ⟨t₁, a, q₁, t₂, rfl, h₁, h₂⟩ | ⟨stopped, h₁, rfl⟩
  · rw [← List.append_assoc]
    exact hf a _ _ (hx h q hpre t₁ _ q₁ h₁) t₂ o q' h₂
  · have hend := hx h q hpre t _ q' h₁
    cases stopped <;> exact hend

/-- Ask for less before and promise less after. -/
theorem Leads.weaken {pre' : Assertion} {post' : α → Assertion} {stop' : Outcome Error → Assertion}
    {x : Phased α} (hx : Leads pre x post stop) (hpre : ∀ t q, pre' t q → pre t q)
    (hpost : ∀ a t q, post a t q → post' a t q) (hstop : ∀ o t q, stop o t q → stop' o t q) :
    Leads pre' x post' stop' := by
  intro h q hp t o q' hr
  have := hx h q (hpre h q hp) t o q' hr
  rcases o with (e | a) | payload
  · exact hstop _ _ _ this
  · exact hpost _ _ _ this
  · exact hstop _ _ _ this

/-- Some parts of the phases are of no interest to what is proved of the others. -/
theorem leads_any {x : Phased α} :
    Leads pre x (fun _ _ _ => True) fun _ _ _ => True := by
  intro h q _ t o q' _
  rcases o with (e | a) | payload <;> exact trivial

/-- What is known of a trace stays known. -/
theorem leads_keep {x : Phased α} {K : PlaneTrace → Prop} (hmono : ∀ t u, K t → K (t ++ u)) :
    Leads (fun t _ => K t) x (fun _ t _ => K t) fun _ _ _ => True := by
  intro h q hknown t o q' _
  rcases o with (e | a) | payload
  · exact trivial
  · exact hmono h t hknown
  · exact trivial

/-- What no question of a part can change stays so to its end, whichever end that is. -/
theorem leads_asks {x : Phased α} {P : PlaneEvent → Prop} {K : PlaneTrace → Prop}
    (hx : ∀ q, (track x.run q).Asks P) (hkeep : ∀ t u, K t → (∀ e ∈ u, P e) → K (t ++ u)) :
    Leads (fun t _ => K t) x (fun _ t _ => K t) fun _ t _ => K t := by
  intro h q hknown t o q' hr
  have hend : K (h ++ t) := hkeep h t hknown (hx q t _ hr)
  rcases o with (e | a) | payload <;> exact hend

/-- What is known of a trace stays known, whichever end there is. -/
theorem leads_known {x : Phased α} {K : PlaneTrace → Prop} (hmono : ∀ t u, K t → K (t ++ u)) :
    Leads (fun t _ => K t) x (fun _ t _ => K t) fun _ t _ => K t :=
  leads_asks (P := fun _ => True) (fun _ _ _ _ _ _ => trivial) fun t u hknown _ => hmono t u hknown

/-- What holds side by side at the start holds side by side at the end. -/
theorem Leads.and {pre' : Assertion} {post' : α → Assertion} {stop' : Outcome Error → Assertion}
    {x : Phased α} (hx : Leads pre x post stop) (hx' : Leads pre' x post' stop') :
    Leads (fun t q => pre t q ∧ pre' t q) x (fun a t q => post a t q ∧ post' a t q)
      fun o t q => stop o t q ∧ stop' o t q := by
  rintro h q ⟨hp, hp'⟩ t o q' hr
  have hend := hx h q hp t o q' hr
  have hend' := hx' h q hp' t o q' hr
  rcases o with (e | a) | payload <;> exact ⟨hend, hend'⟩

/-- What a part brings about wherever it starts, it brings about by itself. -/
theorem Leads.alone {x : Phased α} {K : α → PlaneTrace → Prop}
    (hx : Leads (fun _ _ => True) x (fun a t _ => K a t) fun _ _ _ => True) {q q' : Progress}
    {t : PlaneTrace} {a : α} (h : (track x.run q).Runs t (.returned (.returned (.ok a), q'))) :
    K a t :=
  hx [] q trivial t _ q' h

/-- One call on the control plane, whatever it comes back with. -/
theorem leads_call {call : PlaneCall} {post : call.Answer → Assertion}
    (h : ∀ t q, pre t q → ∀ reply : Attempted call.Answer,
      Ended post stop reply (t ++ [⟨.call call, reply⟩]) q) :
    Leads pre (Phased.call call) post stop := by
  intro t q hpre t' o q' hr
  obtain ⟨reply, t₁, rfl, h₁⟩ := Program.runs_ask_iff.mp hr
  have hend : t₁ = [] ∧ o = reply ∧ q' = q := by
    cases reply <;>
      · obtain ⟨rfl, ho⟩ := Program.runs_done_iff.mp h₁
        cases ho
        exact ⟨rfl, rfl, rfl⟩
  obtain ⟨rfl, rfl, rfl⟩ := hend
  exact h t _ hpre o

/-- A part that works on one store. -/
theorem leads_onStore {kind : Kind} {p : StoreProgram kind.Model (Except Error α)}
    (h : ∀ t q, pre t q → ∀ s o, p.Runs s o →
      Ended post stop o (t ++ s.map (Event.onPlane kind)) q) :
    Leads pre (Phased.onStore kind p) post stop := by
  intro t q hpre t' o q' hr
  rw [track_onStore] at hr
  rcases Program.runs_bind_iff.mp hr with ⟨t₁, o₁, t₂, rfl, h₁, h₂⟩ | ⟨_, _, h₂⟩
  · obtain ⟨rfl, ho⟩ := Program.runs_done_iff.mp h₂
    cases ho
    obtain ⟨_, h₁, ho⟩ := Program.runs_attempt_iff.mp h₁
    cases ho
    obtain ⟨s, hs, rfl⟩ := runs_onStore_iff.mp h₁
    simpa using h t q hpre s o hs
  · cases h₂

theorem leads_enter {phase : Phase} {post : Unit → Assertion}
    (h : ∀ t q, pre t q → post () t { q with phase }) :
    Leads pre (Phased.enter phase) post stop := by
  intro t q hpre t' o q' hr
  obtain ⟨rfl, ho⟩ := Program.runs_done_iff.mp hr
  cases ho
  simpa [Ended] using h t q hpre

theorem leads_register {undo : Undo} {post : Unit → Assertion}
    (h : ∀ t q, pre t q → post () t { q with undos := q.undos ++ [undo] }) :
    Leads pre (Phased.register undo) post stop := by
  intro t q hpre t' o q' hr
  obtain ⟨rfl, ho⟩ := Program.runs_done_iff.mp hr
  cases ho
  simpa [Ended] using h t q hpre

theorem leads_now {post : Instant → Assertion}
    (h : ∀ t q, pre t q → ∀ instant, post instant (t ++ [⟨.now, instant⟩]) q) :
    Leads pre Phased.now post stop := by
  intro t q hpre t' o q' hr
  obtain ⟨instant, t₁, rfl, h₁⟩ := Program.runs_ask_iff.mp hr
  obtain ⟨rfl, ho⟩ := Program.runs_done_iff.mp h₁
  cases ho
  exact h t q hpre instant

/-- A choice among no candidates asks nothing; one among some is always made. -/
theorem leads_choose {β : Type} {candidates : List β} {post : Option β → Assertion}
    (hnil : ∀ t q, pre t q → candidates = [] → post none t q)
    (hcons : ∀ t q, pre t q → ∀ x xs, candidates = x :: xs → ∀ i : Fin (xs.length + 1),
      post ((x :: xs)[i.val]?) (t ++ [⟨.pick xs.length, i⟩]) q) :
    Leads pre (ExceptT.lift (Program.choose candidates) : Phased (Option β)) post stop := by
  intro t q hpre t' o q' hr
  cases candidates with
  | nil =>
    obtain ⟨rfl, ho⟩ := Program.runs_done_iff.mp hr
    cases ho
    simpa [Ended] using hnil t q hpre rfl
  | cons x xs =>
    obtain ⟨i, t₁, rfl, h₁⟩ := Program.runs_ask_iff.mp hr
    obtain ⟨rfl, ho⟩ := Program.runs_done_iff.mp h₁
    cases ho
    exact hcons t q hpre x xs rfl i

end Phased

end

end BuildTrial
