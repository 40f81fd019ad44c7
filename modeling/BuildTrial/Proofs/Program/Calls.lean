import BuildTrial.Proofs.Program.Drift

/-!
# What a program calls

`calls` is what a trace shows of a program to those who see no clock: the calls in order, each with
its reply. The same log can be kept by the surroundings themselves (`recorded`). Whatever two runs
are proved to leave behind alike in all surroundings therefore includes what they called.

`Finishes` puts it together with how a run ends, with one rule for each way to put programs together.
-/

namespace BuildTrial

/-- The call that an event is, with its reply, unless it is about time and chance. -/
def Event.call? {I : Interface} : Event I.timed → Option (Event I)
  | ⟨.call query, reply⟩ => some ⟨query, reply⟩
  | _ => none

/-- The calls of a trace with their replies. -/
def calls {I : Interface} (t : Trace I.timed) : Trace I := t.filterMap Event.call?

variable {I : Interface} {α σ : Type}

@[simp] theorem calls_nil : calls ([] : Trace I.timed) = [] := rfl

@[simp] theorem calls_append (s t : Trace I.timed) : calls (s ++ t) = calls s ++ calls t :=
  List.filterMap_append

/-- Surroundings that also write down what they are asked and what they reply. -/
def recorded (answer : (q : I.Query) → σ → I.Reply q × σ) (query : I.Query) :
    σ × Trace I → I.Reply query × (σ × Trace I) := fun (s, log) =>
  ((answer query s).1, (answer query s).2, log ++ [⟨query, (answer query s).1⟩])

/-- The same world with a log of what was called by now. -/
def World.withLog (w : World σ) (log : Trace I) : World (σ × Trace I) :=
  ⟨(w.plane, log), w.clock, w.jitter, w.pick, w.jitters, w.picks⟩

theorem World.slept_withLog (w : World σ) (log : Trace I) (span : Duration) :
    (w.withLog log).slept span = (w.slept span).withLog log := by
  cases w
  rfl

namespace Program

theorem trace_ask (answer : (q : I.Query) → σ → I.Reply q × σ) (query : I.timed.Query)
    (next : I.timed.Reply query → Program I.timed α) (w : World σ) :
    (ask query next).trace (World.reply answer) w =
      ⟨query, (World.reply answer query w).1⟩ ::
        (next (World.reply answer query w).1).trace (World.reply answer)
          (World.reply answer query w).2 := rfl

theorem trace_now_bind (answer : (q : I.Query) → σ → I.Reply q × σ)
    (next : Instant → Program I.timed α) (w : World σ) :
    (now.bind next).trace (World.reply answer) w =
      ⟨.now, w.now⟩ :: (next w.now).trace (World.reply answer) w := rfl

theorem runIn_sleep {answer : (q : I.Query) → σ → I.Reply q × σ} (span : Duration)
    (next : Unit → Program I.timed α) (w : World σ) :
    runIn (I := I) answer (.ask (.sleep span) next) w = (next ()).runIn answer (w.slept span) := by
  rw [runIn_ask, World.reply_sleep]

theorem calls_trace_sleep {answer : (q : I.Query) → σ → I.Reply q × σ} (span : Duration)
    (next : Unit → Program I.timed α) (w : World σ) :
    calls (trace (I := I.timed) (World.reply answer) (.ask (.sleep span) next) w) =
      calls ((next ()).trace (World.reply answer) (w.slept span)) := by
  rw [trace_ask, World.reply_sleep]
  rfl

/-- Surroundings that write everything down behave as before, and have the calls of the run in their
log. -/
theorem runIn_recorded (answer : (q : I.Query) → σ → I.Reply q × σ) (p : Program I.timed α)
    (w : World σ) (log : Trace I) :
    p.runIn (recorded answer) (w.withLog log) = ((p.runIn answer w).1,
      (p.runIn answer w).2.withLog (log ++ calls (p.trace (World.reply answer) w))) := by
  induction p generalizing w log with
  | done a =>
    rw [trace, calls_nil, List.append_nil]
    rfl
  | panic payload =>
    rw [trace, calls_nil, List.append_nil]
    rfl
  | ask query next ih =>
    rw [runIn_ask, runIn_ask, trace_ask]
    cases query with
    | call query =>
      rw [World.reply_call, World.reply_call]
      have hnext := ih (answer query w.plane).1 { w with plane := (answer query w.plane).2 }
        (log ++ [⟨query, (answer query w.plane).1⟩])
      rw [List.append_assoc] at hnext
      exact hnext
    | sleep span =>
      -- what is no call moves the world on and leaves the log as it is
      rw [World.reply_sleep, World.reply_sleep, World.slept_withLog]
      exact ih () (w.slept span) log
    | now => exact ih w.now w log
    | jitter => exact ih (w.jitter w.jitters) { w with jitters := w.jitters + 1 } log
    | pick last =>
      exact ih (Fin.ofNat (last + 1) (w.pick w.picks)) { w with picks := w.picks + 1 } log

/-! ## How a run ends -/

/-- In the world `w` the program ends so, leaves `w'` behind, and has made these calls by then. -/
structure Finishes (answer : (q : I.Query) → σ → I.Reply q × σ) (p : Program I.timed α) (w : World σ)
    (o : Outcome α) (w' : World σ) (asked : Trace I) : Prop where
  run : p.runIn answer w = (o, w')
  asked : calls (p.trace (World.reply answer) w) = asked

variable {answer : (q : I.Query) → σ → I.Reply q × σ} {w w' : World σ} {o : Outcome α}
  {asked : Trace I}

theorem finishes_done (a : α) : Finishes answer (.done a) w (.returned a) w [] := ⟨rfl, rfl⟩

theorem finishes_panic (payload : Panic) :
    Finishes answer (.panic payload : Program I.timed α) w (.panicked payload) w [] := ⟨rfl, rfl⟩

theorem Finishes.call (query : I.Query) {next : I.Reply query → Program I.timed α}
    (h : Finishes answer (next (answer query w.plane).1)
      { w with plane := (answer query w.plane).2 } o w' asked) :
    Finishes answer (.ask (.call query) next) w o w' (⟨query, (answer query w.plane).1⟩ :: asked) :=
  ⟨h.run, congrArg (List.cons _) h.asked⟩

theorem Finishes.answered {query : I.Query} {reply : I.Reply query} {plane : σ}
    {next : I.Reply query → Program I.timed α} (hanswer : answer query w.plane = (reply, plane))
    (h : Finishes answer (next reply) { w with plane } o w' asked) :
    Finishes answer (.ask (.call query) next) w o w' (⟨query, reply⟩ :: asked) := by
  obtain rfl : (answer query w.plane).1 = reply := congrArg Prod.fst hanswer
  obtain rfl : (answer query w.plane).2 = plane := congrArg Prod.snd hanswer
  exact h.call query

theorem Finishes.now {next : Instant → Program I.timed α}
    (h : Finishes answer (next w.now) w o w' asked) :
    Finishes answer (Program.now.bind next) w o w' asked :=
  ⟨h.run, h.asked⟩

theorem Finishes.sleep {span : Duration} {next : Unit → Program I.timed α}
    (h : Finishes answer (next ()) (w.slept span) o w' asked) :
    Finishes answer ((Program.sleep span).bind next) w o w' asked :=
  ⟨(runIn_sleep_bind answer span next w).trans h.run, (calls_trace_sleep span next w).trans h.asked⟩

theorem Finishes.jitter {next : Jitter → Program I.timed α}
    (h : Finishes answer (next (w.jitter w.jitters)) { w with jitters := w.jitters + 1 } o w' asked) :
    Finishes answer (.ask .jitter next) w o w' asked :=
  ⟨h.run, h.asked⟩

end Program

end BuildTrial
