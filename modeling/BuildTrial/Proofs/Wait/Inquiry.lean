import BuildTrial.Proofs.Program.Cost
import BuildTrial.Proofs.Wait.Polls

/-!
# How often a wait asks its predicate

A predicate is a function, and a run does not show when it is applied. `inquire` is the same wait with
its verdicts asked for like everything else, and `within_inquire` says that it is the same: answered by
a predicate, it is the wait with that predicate. So what `inquire` asks in surroundings that judge by the
predicate (`judging`) is what the wait reads, with the applications of its predicate in between.
-/

namespace BuildTrial

/-- What a wait asks of others: the calls on its store, and its verdict on a snapshot. -/
inductive Inquiry (T : Type) where
  | call (call : StoreCall T)
  | judge (object : T)

@[reducible] def inquiryInterface (T : Type) : Interface where
  Query := Inquiry T
  Reply
    | .call call => Attempted call.Answer
    | .judge _ => Verdict

/-- An inquiry without the verdicts. -/
def Event.ofStore? {T : Type} : Event (inquiryInterface T) → Option (Event (storeInterface T))
  | ⟨.call call, reply⟩ => some ⟨call, reply⟩
  | ⟨.judge _, _⟩ => none

namespace Wait

variable {T : Type}

/-- Go on with more polls, unless the next one would come after the budget. -/
def inquireAgain (config : WaitConfig) (start : Instant)
    (polls : Program (inquiryInterface T).timed (Except Error (Versioned T))) :
    Program (inquiryInterface T).timed (Except Error (Versioned T)) :=
  Program.now.bind fun now =>
    if config.timeout < now.since start + config.pollInterval then
      .done (.error (.timeout config.description (now.since start)))
    else (Program.sleep config.pollInterval).bind fun _ => polls

/-- The rest of a poll after the reply to its read: a snapshot is given to judge. -/
def inquireReply (config : WaitConfig)
    (again : Program (inquiryInterface T).timed (Except Error (Versioned T))) :
    Attempted (Versioned T) → Program (inquiryInterface T).timed (Except Error (Versioned T))
  | .panicked payload => .panic payload
  | .returned (.error e) => if e.isRetryable then again else .done (.error e)
  | .returned (.ok snapshot) =>
    .ask (.call (.judge snapshot.object)) fun
      | .satisfied => .done (.ok snapshot)
      | .unrecoverable reason => .done (.error (.unrecoverable config.description reason))
      | .notYet => again

/-- The polls of a wait that asks for its verdicts. -/
def inquireFrom (name : String) (config : WaitConfig) (start : Instant) :
    (left : Nat) → Program (inquiryInterface T).timed (Except Error (Versioned T))
  | 0 => .panic countOverflow
  | left + 1 =>
    .ask (.call (.call (.get name)))
      (inquireReply config (inquireAgain config start (inquireFrom name config start left)))

/-- The wait that asks for its verdicts. -/
def inquire (name : String) (config : WaitConfig) :
    Program (inquiryInterface T).timed (Except Error (Versioned T)) :=
  Program.now.bind fun start => inquireFrom name config start countLimit

/-- Ask the store for what is asked of it, and the predicate for the verdicts. -/
def judgedBy (predicate : T → Verdict) :
    (query : Inquiry T) → StoreProgram T ((inquiryInterface T).Reply query)
  | .call call => .ask (.call call) .done
  | .judge object => .done (predicate object)

/-- Surroundings that also judge. -/
def judging {σ : Type} (answer : (call : StoreCall T) → σ → Attempted call.Answer × σ)
    (predicate : T → Verdict) : (query : Inquiry T) → σ → (inquiryInterface T).Reply query × σ
  | .call call, s => answer call s
  | .judge object, s => (predicate object, s)

variable {name : String} {config : WaitConfig} {predicate : T → Verdict}

/-- Judged by the predicate, a reply ends the wait or not just as it does otherwise. -/
theorem within_inquireReply {again : Program (inquiryInterface T).timed (Except Error (Versioned T))}
    (reply : Attempted (Versioned T)) :
    (inquireReply config again reply).within (judgedBy predicate) =
      match decision config predicate reply with
      | some o => Program.ofOutcome o
      | none => again.within (judgedBy predicate) := by
  rcases reply with (e | snapshot) | payload
  · simp only [inquireReply, decision]
    cases e.isRetryable <;> rfl
  · simp only [inquireReply, decision, Program.within, Program.interpret, Program.overInterface,
      judgedBy, Program.bind]
    cases predicate snapshot.object <;> rfl
  · rfl

theorem within_inquireFrom {start : Instant} :
    ∀ left, (inquireFrom name config start left).within (judgedBy predicate) =
      pollFrom name config predicate start left
  | 0 => rfl
  | left + 1 => by
    have hagain : Program.within (I := inquiryInterface T) (judgedBy predicate)
        (inquireAgain config start (inquireFrom name config start left)) =
        again name config predicate start left := by
      refine congrArg (Program.ask _) (funext fun now => ?_)
      show Program.within (I := inquiryInterface T) (judgedBy predicate) (if _ then _ else _) =
        if _ then _ else _
      split
      · rfl
      · exact congrArg (Program.ask _) (funext fun _ => within_inquireFrom left)
    rw [pollFrom_eq, ← hagain]
    exact congrArg (Program.ask _) (funext fun reply => within_inquireReply reply)

/-- A wait is one that asks for its verdicts and gets them from the predicate. -/
theorem within_inquire :
    (inquire name config).within (judgedBy predicate) = waitFor name config predicate := by
  have hpolls : ∀ left, Program.within (I := inquiryInterface T) (judgedBy predicate)
      (Program.now.bind fun start => inquireFrom name config start left) =
      Program.now.bind fun start => pollFrom name config predicate start left :=
    fun left => congrArg (Program.ask _) (funext fun _ => within_inquireFrom left)
  exact hpolls countLimit

/-! ## In surroundings that judge -/

variable {α σ : Type} {answer : (call : StoreCall T) → σ → Attempted call.Answer × σ}

theorem runIn_within_judgedBy (p : Program (inquiryInterface T).timed α) (w : World σ) :
    (p.within (judgedBy predicate)).runIn (I := storeInterface T) answer w =
      p.runIn (I := inquiryInterface T) (judging answer predicate) w := by
  induction p generalizing w with
  | done a => rfl
  | panic payload => rfl
  | ask query next ih =>
    rcases query with (call | object) | span | _ | _ | last
    · exact ih (answer call w.plane).1 { w with plane := (answer call w.plane).2 }
    · exact ih (predicate object) w
    · rw [Program.runIn_sleep]
      exact (Program.runIn_sleep span _ w).trans (ih () (w.slept span))
    · exact ih w.now w
    · exact ih (w.jitter w.jitters) { w with jitters := w.jitters + 1 }
    · exact ih (Fin.ofNat (last + 1) (w.pick w.picks)) { w with picks := w.picks + 1 }

theorem calls_within_judgedBy (p : Program (inquiryInterface T).timed α) (w : World σ) :
    calls ((p.within (judgedBy predicate)).trace (World.reply (I := storeInterface T) answer) w) =
      (calls (p.trace (World.reply (I := inquiryInterface T) (judging answer predicate)) w)).filterMap
        Event.ofStore? := by
  induction p generalizing w with
  | done a => rfl
  | panic payload => rfl
  | ask query next ih =>
    rcases query with (call | object) | span | _ | _ | last
    · exact congrArg (List.cons _)
        (ih (answer call w.plane).1 { w with plane := (answer call w.plane).2 })
    · exact ih (predicate object) w
    · rw [Program.calls_trace_sleep]
      exact (Program.calls_trace_sleep (I := storeInterface T) span _ w).trans
        (ih () (w.slept span))
    · exact ih w.now w
    · exact ih (w.jitter w.jitters) { w with jitters := w.jitters + 1 }
    · exact ih (Fin.ofNat (last + 1) (w.pick w.picks)) { w with picks := w.picks + 1 }

end Wait

end BuildTrial
