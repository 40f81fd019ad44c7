import BuildTrial.Proofs.Program.Calls

/-!
# Time passes

A trace leaves the replies open, readings of the clock included. `Ticks` says of a trace that its clock
goes forward, and by no less than the sleeps last. The clock of a world does (`ticks_trace`).
-/

namespace BuildTrial

/-- A trace on whose clock time passes, `earliest` being the least that it can show at first: a reading
is not before the one before it, and sleeps in between come on top. -/
def Ticks {I : Interface} : (earliest : Duration) → Trace I.timed → Prop
  | _, [] => True
  | earliest, ⟨.now, instant⟩ :: t => earliest ≤ instant.sinceStart ∧ Ticks instant.sinceStart t
  | earliest, ⟨.sleep span, _⟩ :: t => Ticks (earliest + min span World.longestSleep) t
  | earliest, ⟨.call _, _⟩ :: t => Ticks earliest t
  | earliest, ⟨.jitter, _⟩ :: t => Ticks earliest t
  | earliest, ⟨.pick _, _⟩ :: t => Ticks earliest t

namespace Ticks

variable {I : Interface}

theorem mono {t : Trace I.timed} {earliest earliest' : Duration} (h : Ticks earliest t)
    (hle : earliest' ≤ earliest) : Ticks earliest' t := by
  induction t generalizing earliest earliest' with
  | nil => exact trivial
  | cons e t ih =>
    obtain ⟨_ | span | _ | _ | _, reply⟩ := e
    · exact ih h hle
    · rw [Ticks] at h ⊢
      exact ih h (Nat.add_le_add_right hle _)
    · exact ⟨Nat.le_trans hle h.1, h.2⟩
    · exact ih h hle
    · exact ih h hle

/-- Time passes in both parts of a trace. -/
theorem of_append {t u : Trace I.timed} {earliest : Duration} (h : Ticks earliest (t ++ u)) :
    Ticks earliest t ∧ ∃ later, Ticks later u := by
  induction t generalizing earliest with
  | nil => exact ⟨trivial, earliest, h⟩
  | cons e t ih =>
    obtain ⟨_ | span | _ | _ | _, reply⟩ := e
    · exact ih h
    · rw [List.cons_append, Ticks] at h
      rw [Ticks]
      exact ih h
    · obtain ⟨hnow, h⟩ := h
      obtain ⟨hticks, hlater⟩ := ih h
      exact ⟨⟨hnow, hticks⟩, hlater⟩
    · exact ih h
    · exact ih h

end Ticks

/-- A sleep lasts no less than it should. -/
theorem World.now_add_le_now_slept {σ : Type} (w : World σ) (span : Duration) :
    w.now.sinceStart + min span longestSleep ≤ (w.slept span).now.sinceStart := by
  have hceil := Duration.nanos_le_ceilMillis (min span longestSleep)
  rw [Duration.le_def, Duration.nanos_add]
  simp only [now, Instant.ofMillis, Duration.ofMillis, clock_slept, Nat.add_mul]
  exact Nat.add_le_add_left hceil _

/-- On the clock of a world time passes. -/
theorem ticks_trace {I : Interface} {α σ : Type} (answer : (q : I.Query) → σ → I.Reply q × σ)
    (p : Program I.timed α) (w : World σ) :
    Ticks w.now.sinceStart (p.trace (World.reply answer) w) := by
  induction p generalizing w with
  | done a => exact trivial
  | panic payload => exact trivial
  | ask query next ih =>
    obtain query | span | _ | _ | last := query
    · exact ih (answer query w.plane).1 { w with plane := (answer query w.plane).2 }
    · rw [Program.trace_ask, World.reply_sleep, Ticks]
      exact (ih () (w.slept span)).mono (w.now_add_le_now_slept span)
    · exact ⟨Nat.le_refl _, ih w.now w⟩
    · exact ih (w.jitter w.jitters) { w with jitters := w.jitters + 1 }
    · exact ih (Fin.ofNat (last + 1) (w.pick w.picks)) { w with picks := w.picks + 1 }

end BuildTrial
