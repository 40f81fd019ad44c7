import BuildTrial.Proofs.Program.Trace

/-!
# Programs that do not see the random factors

Two runs that differ in nothing but their random factors drift apart: their clocks differ by what the
pauses differ. As long as all pauses together take less than a second, the clocks agree in whole
seconds, and a run whose clock is off a whole second is so because it paused, as the other did.
`Drift` says this of two worlds.

`Steady k p` says that `p` does not tell two such worlds apart: it ends the same way in both, having
asked the plane the same, and makes at most `k` pauses, so the worlds stay close. There is one rule
for each way to put programs together. Two programs that were told different times are compared by
the same rules (`InStep`).
-/

namespace BuildTrial

/-- Milliseconds that a pause takes at most. -/
def longestPause : Nat := 15

/-- How many pauses fit into a second, with something left over. -/
def pauseLimit : Nat := 66

/-- Two clocks, in milliseconds, that show the same second, and are off it for the same reason. -/
structure SameSecond (t t' : Nat) : Prop where
  seconds : t / 1000 = t' / 1000
  onTime : t % 1000 = 0 ↔ t' % 1000 = 0

/-- Two worlds that differ by up to `n` pauses. -/
structure Drift {σ : Type} (n : Nat) (w w' : World σ) : Prop where
  plane : w'.plane = w.plane
  pick : w'.pick = w.pick
  picks : w'.picks = w.picks
  clock : SameSecond w.clock w'.clock
  late : w.clock % 1000 ≤ longestPause * n
  late' : w'.clock % 1000 ≤ longestPause * n

namespace Drift

variable {σ : Type} {n m : Nat} {w w' : World σ}

theorem mono (h : Drift n w w') (hle : n ≤ m) : Drift m w w' := by
  have hlimit : longestPause * n ≤ longestPause * m := Nat.mul_le_mul_left _ hle
  exact ⟨h.plane, h.pick, h.picks, h.clock, Nat.le_trans h.late hlimit,
    Nat.le_trans h.late' hlimit⟩

/-- Asking the plane the same keeps the worlds as close as they are. -/
theorem asked (h : Drift n w w') (plane : σ) : Drift n { w with plane } { w' with plane } :=
  ⟨rfl, h.pick, h.picks, h.clock, h.late, h.late'⟩

/-- Time may pass in both worlds, if it leaves the clocks in one second. -/
theorem later (h : Drift n w w') {d d' : Nat} (hclock : SameSecond (w.clock + d) (w'.clock + d'))
    (hlate : (w.clock + d) % 1000 ≤ longestPause * m)
    (hlate' : (w'.clock + d') % 1000 ≤ longestPause * m) :
    Drift m { w with clock := w.clock + d } { w' with clock := w'.clock + d' } :=
  ⟨h.plane, h.pick, h.picks, hclock, hlate, hlate'⟩

/-- Whole seconds of sleep keep the worlds as close as they are. -/
theorem slept (h : Drift n w w') {span : Duration} {s : Nat}
    (hspan : (min span World.longestSleep).ceilMillis = 1000 * s) :
    Drift n (w.slept span) (w'.slept span) := by
  have hlate := h.late
  have hlate' := h.late'
  have hseconds := h.clock.seconds
  have honTime := h.clock.onTime
  rw [World.slept_eq, World.slept_eq, hspan]
  refine h.later ⟨?_, ?_⟩ ?_ ?_
  all_goals omega

theorem ceilMillis_of_pause {span : Duration}
    (h : 0 < span.nanos ∧ span.nanos ≤ longestPause * Duration.nanosPerMilli) :
    0 < (min span World.longestSleep).ceilMillis ∧
      (min span World.longestSleep).ceilMillis ≤ longestPause := by
  obtain ⟨hpos, hle⟩ := h
  have hmin : (min span World.longestSleep).nanos = span.nanos := by
    rw [Duration.nanos_min]
    exact Nat.min_eq_left (Nat.le_trans hle (by decide))
  unfold Duration.ceilMillis
  rw [hmin]
  simp only [longestPause, Duration.nanosPerMilli] at *
  omega

/-- A pause may take either world further, but not to the next second. -/
theorem paused (h : Drift n w w') (hn : n < pauseLimit) {span span' : Duration}
    (hspan : 0 < span.nanos ∧ span.nanos ≤ longestPause * Duration.nanosPerMilli)
    (hspan' : 0 < span'.nanos ∧ span'.nanos ≤ longestPause * Duration.nanosPerMilli) :
    Drift (n + 1) (w.slept span) (w'.slept span') := by
  obtain ⟨hpos, hle⟩ := ceilMillis_of_pause hspan
  obtain ⟨hpos', hle'⟩ := ceilMillis_of_pause hspan'
  have hlate := h.late
  have hlate' := h.late'
  have hseconds := h.clock.seconds
  have honTime := h.clock.onTime
  rw [World.slept_eq, World.slept_eq]
  generalize (min span World.longestSleep).ceilMillis = d at *
  generalize (min span' World.longestSleep).ceilMillis = d' at *
  refine h.later ⟨?_, ?_⟩ ?_ ?_
  all_goals
    simp only [longestPause, pauseLimit] at *
    omega

end Drift

namespace Program

variable {I : Interface} {α β σ : Type} (answer : (q : I.Query) → σ → I.Reply q × σ)

theorem runIn_bind (p : Program I.timed α) (f : α → Program I.timed β) (w : World σ) :
    (p.bind f).runIn answer w = match p.runIn answer w with
      | (.returned a, w') => (f a).runIn answer w'
      | (.panicked payload, w') => (.panicked payload, w') := by
  unfold runIn
  rw [run_bind]
  rcases p.run (World.reply answer) w with ⟨a | payload, w'⟩ <;> rfl

theorem runIn_attempt (p : Program I.timed α) (w : World σ) :
    p.attempt.runIn answer w = (.returned (p.runIn answer w).1, (p.runIn answer w).2) :=
  run_attempt (World.reply answer) p w

theorem runIn_ask (query : I.timed.Query) (next : I.timed.Reply query → Program I.timed β)
    (w : World σ) :
    (ask query next).runIn answer w =
      (next (World.reply answer query w).1).runIn answer (World.reply answer query w).2 := rfl

theorem runIn_sleep_bind (span : Duration) (f : Unit → Program I.timed β) (w : World σ) :
    ((sleep span).bind f).runIn answer w = (f ()).runIn answer (w.slept span) := by
  show (ask (I := I.timed) (.sleep span) f).runIn answer w = _
  rw [runIn_ask, World.reply_sleep]

theorem runIn_now_bind (f : Instant → Program I.timed β) (w : World σ) :
    (now.bind f).runIn answer w = (f w.now).runIn answer w := rfl

/-- Two programs end the same way in two worlds, and leave worlds that differ by up to `n` pauses. -/
def EndAlike (n : Nat) (p p' : Program I.timed α) (w w' : World σ) : Prop :=
  (p'.runIn answer w').1 = (p.runIn answer w).1 ∧
    Drift n (p.runIn answer w).2 (p'.runIn answer w').2

/-- Two programs keep in step: in worlds that drifted apart they end alike, after up to `k` pauses
more. -/
def InStep (k : Nat) (p p' : Program I.timed α) : Prop :=
  ∀ n w w', n + k ≤ pauseLimit → Drift n w w' → EndAlike answer (n + k) p p' w w'

/-- A program is steady if the random factors make no difference to it. -/
def Steady (k : Nat) (p : Program I.timed α) : Prop := InStep answer k p p

variable {answer} {k l n : Nat} {p p' : Program I.timed α} {f f' : α → Program I.timed β}
  {w w' : World σ}

theorem inStep_done (a : α) : InStep answer 0 (.done a) (.done a) :=
  fun _ _ _ _ h => ⟨rfl, h⟩

theorem inStep_panic (payload : Panic) :
    InStep answer 0 (.panic payload : Program I.timed α) (.panic payload) :=
  fun _ _ _ _ h => ⟨rfl, h⟩

theorem inStep_ofOutcome (o : Outcome α) : InStep answer 0 (ofOutcome o) (ofOutcome o) := by
  cases o with
  | returned a => exact inStep_done a
  | panicked payload => exact inStep_panic payload

theorem InStep.mono (h : InStep answer k p p') (hle : k ≤ l) : InStep answer l p p' := by
  intro n w w' hlimit hdrift
  obtain ⟨houtcome, hend⟩ := h n w w' (by omega) hdrift
  exact ⟨houtcome, hend.mono (by omega)⟩

/-- A sequence ends alike if its first part does and what comes after each answer that the first part
can give keeps in step. -/
theorem EndAlike.bind (h : EndAlike answer n p p' w w') (hlimit : n + l ≤ pauseLimit)
    (hf : ∀ t a, p.Runs t (.returned a) → InStep answer l (f a) (f' a)) :
    EndAlike answer (n + l) (p.bind f) (p'.bind f') w w' := by
  obtain ⟨houtcome, hdrift⟩ := h
  unfold EndAlike
  rw [runIn_bind, runIn_bind]
  have hruns : p.Runs _ (p.runIn answer w).1 := runs_trace (World.reply answer) p w
  rcases hp : p.runIn answer w with ⟨a | payload, w₁⟩
  · rcases hp' : p'.runIn answer w' with ⟨o', w₁'⟩
    rw [hp, hp'] at houtcome hdrift
    rw [hp] at hruns
    obtain rfl : o' = .returned a := houtcome
    exact hf _ a hruns n w₁ w₁' hlimit hdrift
  · rcases hp' : p'.runIn answer w' with ⟨o', w₁'⟩
    rw [hp, hp'] at houtcome hdrift
    obtain rfl : o' = .panicked payload := houtcome
    exact ⟨rfl, hdrift.mono (Nat.le_add_right n l)⟩

theorem InStep.bind_of_runs (h : InStep answer k p p')
    (hf : ∀ t a, p.Runs t (.returned a) → InStep answer l (f a) (f' a)) :
    InStep answer (k + l) (p.bind f) (p'.bind f') := by
  intro n w w' hlimit hdrift
  rw [← Nat.add_assoc]
  exact (h n w w' (by omega) hdrift).bind (by omega) hf

theorem InStep.bind (h : InStep answer k p p') (hf : ∀ a, InStep answer l (f a) (f' a)) :
    InStep answer (k + l) (p.bind f) (p'.bind f') :=
  h.bind_of_runs fun _ a _ => hf a

theorem EndAlike.attempt (h : EndAlike answer n p p' w w') :
    EndAlike answer n p.attempt p'.attempt w w' := by
  obtain ⟨houtcome, hend⟩ := h
  unfold EndAlike
  rw [runIn_attempt, runIn_attempt]
  exact ⟨congrArg Outcome.returned houtcome, hend⟩

theorem InStep.attempt (h : InStep answer k p p') : InStep answer k p.attempt p'.attempt :=
  fun n w w' hlimit hdrift => (h n w w' hlimit hdrift).attempt

/-- What is already known is known alike. -/
theorem inStep_ofOutcome_bind {o : Outcome α} (h : ∀ a, InStep answer k (f a) (f' a)) :
    InStep answer k ((ofOutcome o).bind f) ((ofOutcome o).bind f') := by
  cases o with
  | returned a => exact h a
  | panicked payload => exact (inStep_panic payload).mono (Nat.zero_le k)

/-- A call gets the same reply in both worlds. -/
theorem EndAlike.call {query : I.Query} {next next' : I.Reply query → Program I.timed α}
    (hplane : w'.plane = w.plane)
    (h : ∀ r plane, EndAlike answer n (next r) (next' r) { w with plane } { w' with plane }) :
    EndAlike answer n (.ask (.call query) next) (.ask (.call query) next') w w' := by
  show EndAlike answer n (next (answer query w.plane).1) (next' (answer query w'.plane).1)
    { w with plane := (answer query w.plane).2 } { w' with plane := (answer query w'.plane).2 }
  rw [hplane]
  exact h _ _

theorem inStep_call {query : I.Query} {next next' : I.Reply query → Program I.timed α}
    (h : ∀ r, InStep answer k (next r) (next' r)) :
    InStep answer k (.ask (.call query) next) (.ask (.call query) next') :=
  fun n _ _ hlimit hdrift =>
    .call hdrift.plane fun r plane => h r n _ _ hlimit (hdrift.asked plane)

/-- A choice is made alike. -/
theorem inStep_pick {last : Nat} {next next' : Fin (last + 1) → Program I.timed α}
    (h : ∀ i, InStep answer k (next i) (next' i)) :
    InStep answer k (.ask (.pick last) next) (.ask (.pick last) next') := by
  intro n w w' hlimit hdrift
  have hpick : Fin.ofNat (last + 1) (w'.pick w'.picks) = Fin.ofNat (last + 1) (w.pick w.picks) := by
    rw [hdrift.pick, hdrift.picks]
  show EndAlike answer (n + k) (next (Fin.ofNat (last + 1) (w.pick w.picks)))
    (next' (Fin.ofNat (last + 1) (w'.pick w'.picks))) { w with picks := w.picks + 1 }
    { w' with picks := w'.picks + 1 }
  rw [hpick]
  refine h _ n _ _ hlimit ⟨hdrift.plane, hdrift.pick, ?_, hdrift.clock, hdrift.late, hdrift.late'⟩
  show w'.picks + 1 = w.picks + 1
  rw [hdrift.picks]

end Program

end BuildTrial
