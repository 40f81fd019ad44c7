import BuildTrial.Timed

/-!
# Traces — what a program asks, and what it is told

A program is run against surroundings that are a function of their state (`Program.run`). Statements
about *any* surroundings are better read off the trace: the questions in order, each with the reply
it got. `Runs p t o` says that `p`, replied to as `t` says, asks just the questions of `t` and ends
with `o`. It leaves the replies open, so a statement over every `t` with `Runs p t o` holds whatever
the surroundings do, clocks and chances included.

`Program.trace` is the trace of a run against given surroundings, and `runs_trace` ties the two.
`Path` is the other half of such a run: the states that the surroundings pass through.
-/

namespace BuildTrial

/-- A question and the reply that it got. -/
abbrev Event (I : Interface) : Type := (query : I.Query) × I.Reply query

/-- Questions in the order in which they were asked. -/
abbrev Trace (I : Interface) : Type := List (Event I)

namespace Program

variable {I : Interface} {α β σ : Type}

/-- Replied to as the trace says, the program asks just these questions and ends so. -/
inductive Runs : Program I α → Trace I → Outcome α → Prop where
  | done (a : α) : Runs (.done a) [] (.returned a)
  | panic (payload : Panic) : Runs (.panic payload) [] (.panicked payload)
  | ask {query : I.Query} {next : I.Reply query → Program I α} (reply : I.Reply query)
      {t : Trace I} {o : Outcome α} (rest : Runs (next reply) t o) :
      Runs (.ask query next) (⟨query, reply⟩ :: t) o

/-- The questions of a run and the replies of the surroundings. -/
def trace (reply : (q : I.Query) → σ → I.Reply q × σ) : Program I α → σ → Trace I
  | .done _, _ => []
  | .panic _, _ => []
  | .ask query next, s =>
    let (r, s') := reply query s
    ⟨query, r⟩ :: (next r).trace reply s'

/-- Surroundings that are asked the questions of the trace reply as it says and end up in the
state on the right. -/
inductive Path (reply : (q : I.Query) → σ → I.Reply q × σ) : σ → Trace I → σ → Prop where
  | nil (s : σ) : Path reply s [] s
  | cons {s s' : σ} {t : Trace I} (query : I.Query) (rest : Path reply (reply query s).2 t s') :
      Path reply s (⟨query, (reply query s).1⟩ :: t) s'

/-- What is in the middle of two parts together is in the middle of one of them. -/
theorem exists_of_append_eq_append_cons {s t t' u : List α} {e : α} (h : t ++ t' = s ++ e :: u) :
    (∃ a, t = s ++ e :: a ∧ u = a ++ t') ∨ ∃ a, s = t ++ a ∧ t' = a ++ e :: u := by
  rcases List.append_eq_append_iff.mp h with ⟨a, rfl, rfl⟩ | ⟨a, rfl, ha⟩
  · exact .inr ⟨a, rfl, rfl⟩
  · cases a with
    | nil => exact .inr ⟨[], by simp, ha.symm⟩
    | cons e' a =>
      obtain ⟨rfl, rfl⟩ := List.cons.inj ha
      exact .inl ⟨a, rfl, rfl⟩

/-- Each member of the list stands so to those before it. -/
def Throughout {α : Type} (P : List α → α → Prop) (t : List α) : Prop :=
  ∀ s e u, t = s ++ e :: u → P s e

namespace Throughout

variable {P : List α → α → Prop} {t u : List α} {e : α}

theorem nil : Throughout P [] := fun _ _ _ h => by simp at h

theorem append (ht : Throughout P t) (hu : Throughout (fun s e => P (t ++ s) e) u) :
    Throughout P (t ++ u) := by
  intro s e u' heq
  rcases exists_of_append_eq_append_cons heq with ⟨a, rfl, -⟩ | ⟨a, rfl, ha⟩
  · exact ht s e a rfl
  · exact hu a e u' ha

theorem concat (ht : Throughout P t) (he : P t e) : Throughout P (t ++ [e]) := by
  refine ht.append fun s e' u' heq => ?_
  obtain ⟨rfl, h⟩ | ⟨-, ⟨⟩⟩ := List.singleton_eq_append_iff.mp heq
  obtain ⟨rfl, -⟩ := List.cons.inj h
  rwa [List.append_nil]

end Throughout

/-! ## A run against surroundings has a trace -/

section

variable (reply : (q : I.Query) → σ → I.Reply q × σ)

theorem runs_trace (p : Program I α) (s : σ) : p.Runs (p.trace reply s) (p.run reply s).1 := by
  induction p generalizing s with
  | done a => exact .done a
  | panic payload => exact .panic payload
  | ask query next ih => exact .ask _ (ih (reply query s).1 (reply query s).2)

theorem path_trace (p : Program I α) (s : σ) :
    Path reply s (p.trace reply s) (p.run reply s).2 := by
  induction p generalizing s with
  | done a => exact .nil s
  | panic payload => exact .nil s
  | ask query next ih => exact .cons query (ih (reply query s).1 (reply query s).2)

end

/-- A sequence asks what its parts ask; after a panic of the first part that is all. -/
theorem trace_bind (reply : (q : I.Query) → σ → I.Reply q × σ) (p : Program I α)
    (f : α → Program I β) (s : σ) :
    (p.bind f).trace reply s = p.trace reply s ++ match p.run reply s with
      | (.returned a, s') => (f a).trace reply s'
      | (.panicked _, _) => [] := by
  induction p generalizing s with
  | done a => rfl
  | panic payload => rfl
  | ask query next ih => simp only [bind, trace, run, ih, List.cons_append]

theorem trace_attempt (reply : (q : I.Query) → σ → I.Reply q × σ) (p : Program I α) (s : σ) :
    p.attempt.trace reply s = p.trace reply s := by
  induction p generalizing s with
  | done a => rfl
  | panic payload => rfl
  | ask query next ih => simp only [attempt, trace, ih]

theorem Path.append_iff {reply : (q : I.Query) → σ → I.Reply q × σ} {s s' : σ} {t t' : Trace I} :
    Path reply s (t ++ t') s' ↔ ∃ m, Path reply s t m ∧ Path reply m t' s' := by
  induction t generalizing s with
  | nil =>
    constructor
    · exact fun h => ⟨s, .nil s, h⟩
    · rintro ⟨m, h, h'⟩
      cases h
      exact h'
  | cons e t ih =>
    constructor
    · intro h
      cases h with
      | cons query rest =>
        obtain ⟨m, h, h'⟩ := ih.mp rest
        exact ⟨m, .cons query h, h'⟩
    · rintro ⟨m, h, h'⟩
      cases h with
      | cons query rest => exact .cons query (ih.mpr ⟨m, rest, h'⟩)

/-! ## Runs of the ways to put programs together -/

@[simp] theorem runs_done_iff {a : α} {t : Trace I} {o : Outcome α} :
    Runs (.done a) t o ↔ t = [] ∧ o = .returned a := by
  constructor
  · intro h
    cases h
    exact ⟨rfl, rfl⟩
  · rintro ⟨rfl, rfl⟩
    exact .done a

@[simp] theorem runs_panic_iff {payload : Panic} {t : Trace I} {o : Outcome α} :
    Runs (.panic payload) t o ↔ t = [] ∧ o = .panicked payload := by
  constructor
  · intro h
    cases h
    exact ⟨rfl, rfl⟩
  · rintro ⟨rfl, rfl⟩
    exact .panic payload

@[simp] theorem runs_ask_iff {query : I.Query} {next : I.Reply query → Program I α} {t : Trace I}
    {o : Outcome α} :
    Runs (.ask query next) t o ↔ ∃ r t', t = ⟨query, r⟩ :: t' ∧ (next r).Runs t' o := by
  constructor
  · intro h
    cases h with
    | ask r rest => exact ⟨r, _, rfl, rest⟩
  · rintro ⟨r, t', rfl, rest⟩
    exact .ask r rest

/-- A sequence runs its parts one after the other; a panic of the first part is all there is. -/
theorem runs_bind_iff {p : Program I α} {f : α → Program I β} {t : Trace I} {o : Outcome β} :
    (p.bind f).Runs t o ↔
      (∃ t₁ a t₂, t = t₁ ++ t₂ ∧ p.Runs t₁ (.returned a) ∧ (f a).Runs t₂ o) ∨
        ∃ payload, p.Runs t (.panicked payload) ∧ o = .panicked payload := by
  induction p generalizing t with
  | done a =>
    simp only [bind, runs_done_iff, reduceCtorEq, and_false, false_and, exists_false, or_false,
      Outcome.returned.injEq]
    constructor
    · exact fun h => ⟨[], a, t, rfl, ⟨rfl, rfl⟩, h⟩
    · rintro ⟨_, _, t₂, rfl, ⟨rfl, rfl⟩, h⟩
      exact h
  | panic payload =>
    simp only [bind, runs_panic_iff, reduceCtorEq, and_false, false_and, exists_false, false_or,
      Outcome.panicked.injEq]
    constructor
    · rintro ⟨rfl, rfl⟩
      exact ⟨payload, ⟨rfl, rfl⟩, rfl⟩
    · rintro ⟨_, ⟨rfl, rfl⟩, rfl⟩
      exact ⟨rfl, rfl⟩
  | ask query next ih =>
    simp only [bind, runs_ask_iff, ih]
    constructor
    · rintro ⟨r, t', rfl, ⟨t₁, a, t₂, rfl, h₁, h₂⟩ | ⟨payload, h, rfl⟩⟩
      · exact .inl ⟨⟨query, r⟩ :: t₁, a, t₂, rfl, ⟨r, t₁, rfl, h₁⟩, h₂⟩
      · exact .inr ⟨payload, ⟨r, t', rfl, h⟩, rfl⟩
    · rintro (⟨_, a, t₂, rfl, ⟨r, t₁, rfl, h₁⟩, h₂⟩ | ⟨payload, ⟨r, t', rfl, h⟩, rfl⟩)
      · exact ⟨r, t₁ ++ t₂, rfl, .inl ⟨t₁, a, t₂, rfl, h₁, h₂⟩⟩
      · exact ⟨r, t', rfl, .inr ⟨payload, h, rfl⟩⟩

/-- The replies decide what is asked and when it ends: two runs that are told the same, as far as both
go, are the same run. -/
theorem Runs.unique {p : Program I α} {t t' u u' : Trace I} {o o' : Outcome α} (h : p.Runs t o)
    (h' : p.Runs t' o') (heq : t ++ u = t' ++ u') : t = t' ∧ o = o' ∧ u = u' := by
  induction h generalizing t' with
  | done a =>
    obtain ⟨rfl, rfl⟩ := runs_done_iff.mp h'
    exact ⟨rfl, rfl, heq⟩
  | panic payload =>
    obtain ⟨rfl, rfl⟩ := runs_panic_iff.mp h'
    exact ⟨rfl, rfl, heq⟩
  | ask reply rest ih =>
    obtain ⟨reply', t', rfl, hrest⟩ := runs_ask_iff.mp h'
    obtain ⟨hevent, htail⟩ := List.cons.inj heq
    cases hevent
    obtain ⟨rfl, ho, hu⟩ := ih hrest htail
    exact ⟨rfl, ho, hu⟩

/-- Once the first part has returned, a sequence goes on with the second. -/
theorem Runs.bind_iff {p : Program I α} {f : α → Program I β} {t u : Trace I} {a : α}
    {o : Outcome β} (h : p.Runs t (.returned a)) :
    (p.bind f).Runs (t ++ u) o ↔ (f a).Runs u o := by
  rw [runs_bind_iff]
  constructor
  · rintro (⟨t₁, a', t₂, heq, h₁, h₂⟩ | ⟨payload, h₁, -⟩)
    · obtain ⟨-, ho, rfl⟩ := h.unique h₁ heq
      rwa [Outcome.returned.inj ho]
    · obtain ⟨-, ho, -⟩ := h.unique h₁ (List.append_nil _).symm
      cases ho
  · exact fun h₂ => .inl ⟨t, a, u, rfl, h, h₂⟩

theorem runs_ofOutcome_iff {o o' : Outcome α} {t : Trace I} :
    (ofOutcome o : Program I α).Runs t o' ↔ t = [] ∧ o' = o := by
  cases o <;> simp [ofOutcome]

/-- Catching a panic changes how a run ends, not what is asked. -/
theorem runs_attempt_iff {p : Program I α} {t : Trace I} {o : Outcome (Outcome α)} :
    p.attempt.Runs t o ↔ ∃ o', p.Runs t o' ∧ o = .returned o' := by
  induction p generalizing t with
  | done a =>
    constructor
    · intro h
      cases h
      exact ⟨_, .done a, rfl⟩
    · rintro ⟨_, h, rfl⟩
      cases h
      exact .done _
  | panic payload =>
    constructor
    · intro h
      cases h
      exact ⟨_, .panic payload, rfl⟩
    · rintro ⟨_, h, rfl⟩
      cases h
      exact .done _
  | ask query next ih =>
    simp only [attempt, runs_ask_iff, ih]
    constructor
    · rintro ⟨r, t', rfl, o', h, rfl⟩
      exact ⟨o', ⟨r, t', rfl, h⟩, rfl⟩
    · rintro ⟨o', ⟨r, t', rfl, h⟩, rfl⟩
      exact ⟨r, t', rfl, o', h, rfl⟩

/-! ## What every run asks -/

/-- Whatever the program is told, it asks only questions with the property. -/
def Asks (P : Event I → Prop) (p : Program I α) : Prop := ∀ t o, p.Runs t o → ∀ e ∈ t, P e

section

variable {P : Event I → Prop} {p : Program I α} {f : α → Program I β}

theorem asks_done (a : α) : Asks P (.done a) := by
  intro t o h
  obtain ⟨rfl, -⟩ := runs_done_iff.mp h
  simp

theorem asks_ask {query : I.Query} {next : I.Reply query → Program I α}
    (hquery : ∀ r, P ⟨query, r⟩) (hnext : ∀ r, Asks P (next r)) : Asks P (.ask query next) := by
  intro t o h
  obtain ⟨r, t, rfl, hrest⟩ := runs_ask_iff.mp h
  exact List.forall_mem_cons.mpr ⟨hquery r, hnext r t o hrest⟩

theorem Asks.bind (hp : Asks P p) (hf : ∀ a, Asks P (f a)) : Asks P (p.bind f) := by
  intro t o h
  rcases runs_bind_iff.mp h with ⟨t₁, a, t₂, rfl, h₁, h₂⟩ | ⟨payload, h, -⟩
  · exact List.forall_mem_append.mpr ⟨hp t₁ _ h₁, hf a t₂ o h₂⟩
  · exact hp t _ h

theorem Asks.attempt (hp : Asks P p) : Asks P p.attempt := by
  intro t o h
  obtain ⟨o', h, -⟩ := runs_attempt_iff.mp h
  exact hp t o' h

end

end Program

/-! ## Questions to a world -/

namespace World

variable {σ : Type} {I : Interface} (answer : (q : I.Query) → σ → I.Reply q × σ) (w : World σ)

theorem reply_call (query : I.Query) :
    World.reply answer (.call query) w =
      ((answer query w.plane).1, { w with plane := (answer query w.plane).2 }) := rfl

theorem reply_sleep (span : Duration) : World.reply answer (.sleep span) w = ((), w.slept span) :=
  rfl

theorem slept_eq (span : Duration) :
    w.slept span = { w with clock := w.clock + (min span longestSleep).ceilMillis } := rfl

theorem clock_slept (span : Duration) :
    (w.slept span).clock = w.clock + (min span longestSleep).ceilMillis := by
  cases w
  rfl

@[simp] theorem plane_slept (span : Duration) : (w.slept span).plane = w.plane := by
  -- with the world taken apart no one compares its clock before and after
  cases w
  rfl

end World

end BuildTrial
