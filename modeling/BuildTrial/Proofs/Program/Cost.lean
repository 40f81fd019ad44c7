import BuildTrial.Proofs.Program.Calls

/-!
# What a program costs

A program takes time in its sleeps and makes calls. Some sleeps respect a deadline: they end by then
or do not begin. Others, the pauses between conflicting updates, do not look at the deadline, but they
are short and few. `Spends` bounds both kinds of time, and the calls as well: beyond a fixed number
there is at most one for each second that has passed.

The bounds of two parts add up to one of their sequence, and there is one rule for each other way to
put programs together.
-/

namespace BuildTrial.Program

variable {I : Interface} {α β σ : Type} (answer : (q : I.Query) → σ → I.Reply q × σ)

/-- From the world `w` on, the program ends by the deadline, in milliseconds, or `k` pauses later, and
makes up to `n` calls besides one for each second. -/
structure Spends (deadline k n : Nat) (p : Program I.timed α) (w : World σ) : Prop where
  forward : w.clock ≤ (p.runIn answer w).2.clock
  ends : (p.runIn answer w).2.clock ≤ max w.clock deadline + longestPause * k
  called : 1000 * (calls (p.trace (World.reply answer) w)).length + w.clock ≤
    1000 * n + (p.runIn answer w).2.clock

/-- Wherever it begins, the program spends no more than that. -/
def Frugal (deadline k n : Nat) (p : Program I.timed α) : Prop :=
  ∀ w, Spends answer deadline k n p w

variable {answer} {deadline k l n m : Nat} {p : Program I.timed α} {f : α → Program I.timed β}
  {w : World σ}

theorem Spends.mono (h : Spends answer deadline k n p w) (hk : k ≤ l) (hn : n ≤ m) :
    Spends answer deadline l m p w := by
  obtain ⟨hforward, hends, hcalled⟩ := h
  have hpause : longestPause * k ≤ longestPause * l := Nat.mul_le_mul_left _ hk
  exact ⟨hforward, by omega, by omega⟩

theorem Frugal.mono (h : Frugal answer deadline k n p) (hk : k ≤ l) (hn : n ≤ m) :
    Frugal answer deadline l m p :=
  fun w => (h w).mono hk hn

theorem frugal_done (a : α) : Frugal answer deadline 0 0 (.done a) :=
  fun w => ⟨Nat.le_refl _, Nat.le_max_left _ _, by rw [trace, calls_nil]; exact Nat.le_refl _⟩

theorem frugal_panic (payload : Panic) :
    Frugal answer deadline 0 0 (.panic payload : Program I.timed α) :=
  fun w => ⟨Nat.le_refl _, Nat.le_max_left _ _, by rw [trace, calls_nil]; exact Nat.le_refl _⟩

theorem frugal_ofOutcome (o : Outcome α) : Frugal answer deadline 0 0 (ofOutcome o) := by
  cases o with
  | returned a => exact frugal_done a
  | panicked payload => exact frugal_panic payload

/-- What a sequence spends is what its parts spend. -/
theorem Spends.bind (h : Spends answer deadline k n p w)
    (hf : ∀ t a, p.Runs t (.returned a) → Frugal answer deadline l m (f a)) :
    Spends answer deadline (k + l) (n + m) (p.bind f) w := by
  obtain ⟨hforward, hends, hcalled⟩ := h
  have hruns : p.Runs _ (p.runIn answer w).1 := runs_trace (World.reply answer) p w
  have htrace := trace_bind (World.reply answer) p f w
  have hrun := runIn_bind answer p f w
  rw [show p.run (World.reply answer) w = p.runIn answer w from rfl] at htrace
  have hpauses : longestPause * (k + l) = longestPause * k + longestPause * l :=
    Nat.mul_add _ _ _
  rcases hp : p.runIn answer w with ⟨a | payload, w₁⟩
  · rw [hp] at hforward hends hcalled hruns htrace hrun
    obtain ⟨hforward', hends', hcalled'⟩ := hf _ a hruns w₁
    refine ⟨?_, ?_, ?_⟩
    · rw [hrun]
      exact Nat.le_trans hforward hforward'
    · rw [hrun, hpauses]
      dsimp only at hends ⊢
      omega
    · rw [hrun, htrace, calls_append, List.length_append]
      dsimp only at hcalled ⊢
      omega
  · -- a panic of the first part leaves what the second could have spent
    rw [hp] at hforward hends hcalled htrace hrun
    refine ⟨?_, ?_, ?_⟩
    · rw [hrun]
      exact hforward
    · rw [hrun, hpauses]
      dsimp only at hends ⊢
      omega
    · rw [hrun, htrace, List.append_nil]
      dsimp only at hcalled ⊢
      omega

theorem Frugal.bind_of_runs (h : Frugal answer deadline k n p)
    (hf : ∀ t a, p.Runs t (.returned a) → Frugal answer deadline l m (f a)) :
    Frugal answer deadline (k + l) (n + m) (p.bind f) :=
  fun w => (h w).bind hf

theorem Frugal.bind (h : Frugal answer deadline k n p)
    (hf : ∀ a, Frugal answer deadline l m (f a)) :
    Frugal answer deadline (k + l) (n + m) (p.bind f) :=
  h.bind_of_runs fun _ a _ => hf a

theorem Spends.attempt (h : Spends answer deadline k n p w) :
    Spends answer deadline k n p.attempt w := by
  obtain ⟨hforward, hends, hcalled⟩ := h
  refine ⟨?_, ?_, ?_⟩
  · rwa [runIn_attempt]
  · rwa [runIn_attempt]
  · rwa [runIn_attempt, trace_attempt]

theorem Frugal.attempt (h : Frugal answer deadline k n p) : Frugal answer deadline k n p.attempt :=
  fun w => (h w).attempt

theorem frugal_ofOutcome_bind {o : Outcome α} (h : ∀ a, Frugal answer deadline k n (f a)) :
    Frugal answer deadline k n ((ofOutcome o).bind f) := by
  cases o with
  | returned a => exact h a
  | panicked payload => exact (frugal_panic payload).mono (Nat.zero_le k) (Nat.zero_le n)

/-- A call is one call more and takes no time. -/
theorem Spends.call {query : I.Query} {next : I.Reply query → Program I.timed α}
    (h : ∀ r plane, Spends answer deadline k n (next r) { w with plane }) :
    Spends answer deadline k (n + 1) (.ask (.call query) next) w := by
  obtain ⟨hforward, hends, hcalled⟩ := h (answer query w.plane).1 (answer query w.plane).2
  refine ⟨hforward, hends, ?_⟩
  rw [trace_ask, World.reply_call, runIn_ask, World.reply_call]
  rw [show ∀ t, calls (⟨.call query, (answer query w.plane).1⟩ :: t) =
    ⟨query, (answer query w.plane).1⟩ :: calls t from fun _ => rfl, List.length_cons]
  dsimp only at hcalled ⊢
  omega

theorem frugal_call {query : I.Query} {next : I.Reply query → Program I.timed α}
    (h : ∀ r, Frugal answer deadline k n (next r)) :
    Frugal answer deadline k (n + 1) (.ask (.call query) next) :=
  fun _ => .call fun r _ => h r _

/-- Looking at the clock takes no time. -/
theorem Spends.now {next : Instant → Program I.timed α}
    (h : Spends answer deadline k n (next w.now) w) :
    Spends answer deadline k n (now.bind next) w :=
  ⟨h.forward, h.ends, h.called⟩

theorem Spends.jitter {next : Jitter → Program I.timed α}
    (h : Spends answer deadline k n (next (w.jitter w.jitters)) { w with jitters := w.jitters + 1 }) :
    Spends answer deadline k n (.ask .jitter next) w :=
  ⟨h.forward, h.ends, h.called⟩

/-- A pause does not look at the deadline. -/
theorem Spends.pause {span : Duration} {next : Unit → Program I.timed α}
    (hspan : 0 < span.nanos ∧ span.nanos ≤ longestPause * Duration.nanosPerMilli)
    (h : Spends answer deadline k n (next ()) (w.slept span)) :
    Spends answer deadline (k + 1) n (.ask (.sleep span) next) w := by
  obtain ⟨-, hle⟩ := Drift.ceilMillis_of_pause hspan
  obtain ⟨hforward, hends, hcalled⟩ := h
  rw [World.clock_slept] at hforward hends hcalled
  have hpauses : longestPause * (k + 1) = longestPause * k + longestPause := Nat.mul_succ _ _
  refine ⟨?_, ?_, ?_⟩
  all_goals
    simp only [runIn_sleep, calls_trace_sleep]
    omega

/-- A sleep of seconds that ends by the deadline makes up for one more call. -/
theorem Spends.sleep {span : Duration} {next : Unit → Program I.timed α} {s : Nat}
    (hspan : (min span World.longestSleep).ceilMillis = 1000 * s) (hpos : 0 < s)
    (hdeadline : w.clock + 1000 * s ≤ deadline)
    (h : Spends answer deadline k (n + 1) (next ()) (w.slept span)) :
    Spends answer deadline k n (.ask (.sleep span) next) w := by
  obtain ⟨hforward, hends, hcalled⟩ := h
  rw [World.clock_slept, hspan] at hforward hends hcalled
  refine ⟨?_, ?_, ?_⟩
  all_goals
    simp only [runIn_sleep, calls_trace_sleep]
    omega

theorem frugal_pick {last : Nat} {next : Fin (last + 1) → Program I.timed α}
    (h : ∀ i, Frugal answer deadline k n (next i)) :
    Frugal answer deadline k n (.ask (.pick last) next) := fun w =>
  have hnext := h (Fin.ofNat (last + 1) (w.pick w.picks)) { w with picks := w.picks + 1 }
  ⟨hnext.forward, hnext.ends, hnext.called⟩

end BuildTrial.Program
