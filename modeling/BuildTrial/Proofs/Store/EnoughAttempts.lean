import BuildTrial.Proofs.Store.Attempts
import BuildTrial.Proofs.Store.NoLostUpdate

/-!
# Enough attempts

When nobody but the clients themselves writes an object, a client meets a conflict only because
another one committed between its read and its update. It has read anew since the conflict before,
so that commit is not one that an earlier conflict was about: `Racing` keeps the count, a client in
its cycle has had no more conflicts than there were commits, and one fewer if what it read is out of
date already. Each client commits once, so those who may make as many attempts as there are clients
never run out of them.
-/

namespace BuildTrial

open Mutate Attempt

namespace MemoryStore

variable {T ρ : Type} [Resource T]

/-- The object is there, and nothing writes it but calls. -/
structure Calm (name : String) (s : MemoryStore T ρ) : Prop where
  entry : ∃ entry, s.objects[name]? = some entry
  reconciler : s.reconciler = none
  foreignWrites : s.foreignWrites = 0

end MemoryStore

namespace Contention

variable {T ρ : Type} [Resource T]

/-- The attempt that a call of a client is, if it is an update. -/
def attemptsOf (i : Nat) (s : MemoryStore T ρ) : StoreCall T → List Attempt
  | .update name desired expected => [⟨i, (s.update name desired expected).1.isOk⟩]
  | _ => []

/-- One step of one of the clients, with its attempt if it is one. -/
inductive Move : Contention T ρ → List Attempt → Contention T ρ → Prop where
  | call {c : Contention T ρ} {i : Nat} {call : StoreCall T}
      {next : Attempted call.Answer → StoreProgram T (Except Error (Versioned T))}
      (h : c.clients[i]? = some (.ask (.call call) next)) :
      Move c (attemptsOf i c.store call)
        ⟨(c.store.serve call).2, c.clients.set i (next (c.store.serve call).1)⟩
  /-- A client sleeps, or asks for the time or a chance; it may be told anything. -/
  | time {c : Contention T ρ} {i : Nat} {query : (storeInterface T).timed.Query}
      {next : (storeInterface T).timed.Reply query →
        StoreProgram T (Except Error (Versioned T))}
      (hquery : ∀ call, query ≠ .call call) (h : c.clients[i]? = some (.ask query next))
      (reply : (storeInterface T).timed.Reply query) :
      Move c [] { c with clients := c.clients.set i (next reply) }

/-- Any number of steps of the clients in any order, with their attempts. -/
inductive Moves (c : Contention T ρ) : List Attempt → Contention T ρ → Prop where
  | nil : Moves c [] c
  | step {c' c'' : Contention T ρ} {log more : List Attempt} (moves : Moves c log c')
      (move : Move c' more c'') : Moves c (log ++ more) c''

end Contention

/-- What a client has still to do that has not committed, after so many attempts of its own and
so many commits of others. -/
inductive Racing {T ρ : Type} [Resource T] (name : String) (m : Mutator T) (s : MemoryStore T ρ)
    (tries commits : Nat) : StoreProgram T (Except Error (Versioned T)) → Prop where
  | reading (left : Nat) (backoff : Backoff) (hle : tries ≤ commits) :
    Racing name m s tries commits
      (cycleFrom name m.config m.mutation left (tries + 1) backoff)
  /-- If what it read is out of date, there is a commit that it has not met yet. -/
  | writing {snapshot : Versioned T} {desired : T} (left : Nat) (backoff : Backoff)
      (hle : tries ≤ commits)
      (hstale : ∀ entry, s.objects[name]? = some entry →
        toString entry.version ≠ snapshot.version → tries < commits) :
    Racing name m s tries commits
      ((StoreCall.update name desired snapshot.version).run.bind
        (afterUpdate name m.config m.mutation left (tries + 1) backoff))
  | pausing (left : Nat) (backoff : Backoff) (hle : tries ≤ commits) :
    Racing name m s tries commits
      (backoff.pause.bind fun after =>
        cycleFrom name m.config m.mutation left (tries + 1) after)
  | sleeping (span : Duration) (left : Nat) (backoff : Backoff) (hle : tries ≤ commits) :
    Racing name m s tries commits
      (.ask (.sleep span) fun _ => cycleFrom name m.config m.mutation left (tries + 1) backoff)
  | panicked (payload : Panic) (hle : tries ≤ commits) :
    Racing name m s tries commits (.panic payload)

namespace Racing

variable {T ρ : Type} [Resource T] {name : String} {m : Mutator T} {s s' : MemoryStore T ρ}
  {tries commits commits' : Nat} {p : StoreProgram T (Except Error (Versioned T))}

theorem tries_le (h : Racing name m s tries commits p) : tries ≤ commits := by
  cases h <;> assumption

/-- What others do takes nothing away: either the object stays, or there is one more commit. -/
theorem of_others (h : Racing name m s tries commits p)
    (hothers : s'.objects[name]? = s.objects[name]? ∧ commits' = commits ∨ commits < commits') :
    Racing name m s' tries commits' p := by
  have hle : tries ≤ commits' := by
    have := h.tries_le
    omega
  cases h with
  | reading left backoff => exact .reading left backoff hle
  | writing left backoff hle' hstale =>
    refine .writing left backoff hle fun entry hentry hversion => ?_
    rcases hothers with ⟨hsame, rfl⟩ | hlt
    · exact hstale entry (hsame ▸ hentry) hversion
    · exact Nat.lt_of_le_of_lt hle' hlt
  | pausing left backoff => exact .pausing left backoff hle
  | sleeping span left backoff => exact .sleeping span left backoff hle
  | panicked payload => exact .panicked payload hle

/-- A client that is still racing has not failed. -/
theorem not_done (h : Racing name m s tries commits p) (answer : Except Error (Versioned T)) :
    p ≠ .done answer := by
  rintro rfl
  generalize hp : (Program.done answer : StoreProgram T (Except Error (Versioned T))) = p at h
  cases h with
  | reading left => cases left <;> cases hp
  | writing => cases hp
  | pausing =>
    rw [Backoff.pause_eq] at hp
    cases hp
  | sleeping => cases hp
  | panicked => cases hp

/-- A client that sleeps or asks for the time or a chance goes on, whatever it is told. -/
theorem time {query : (storeInterface T).timed.Query}
    {next : (storeInterface T).timed.Reply query → StoreProgram T (Except Error (Versioned T))}
    (h : Racing name m s tries commits (.ask query next)) (hquery : ∀ call, query ≠ .call call)
    (reply : (storeInterface T).timed.Reply query) :
    Racing name m s tries commits (next reply) := by
  have hle := h.tries_le
  generalize hp : Program.ask query next = p at h
  cases h with
  | reading left =>
    cases left with
    | zero => cases hp
    | succ left =>
      cases hp
      exact absurd rfl (hquery _)
  | writing =>
    cases hp
    exact absurd rfl (hquery _)
  | pausing left backoff =>
    rw [Backoff.pause_eq] at hp
    cases hp
    dsimp only
    cases backoff.next reply with
    | returned pair => exact .sleeping pair.1 left pair.2 hle
    | panicked payload => exact .panicked payload hle
  | sleeping span left backoff =>
    cases hp
    exact .reading left backoff hle
  | panicked => cases hp

end Racing

/-! ## What a call of a racing client does -/

/-- A call of a client that has not committed, with its attempt: a read, an update that meets a
conflict, or the commit. -/
inductive Round {T ρ : Type} [Resource T] (name : String) (m : Mutator T) (s : MemoryStore T ρ)
    (i tries commits : Nat) : List Attempt → MemoryStore T ρ →
      StoreProgram T (Except Error (Versioned T)) → Prop where
  | read {s' : MemoryStore T ρ} {p : StoreProgram T (Except Error (Versioned T))}
      (hobjects : s'.objects = s.objects) (hattempts : s'.updateAttempts = s.updateAttempts)
      (racing : Racing name m s' tries commits p) :
    Round name m s i tries commits [] s' p
  | refused {s' : MemoryStore T ρ} {p : StoreProgram T (Except Error (Versioned T))}
      (hobjects : s'.objects = s.objects) (hattempts : s'.updateAttempts = s.updateAttempts + 1)
      (hlt : tries < commits) (racing : Racing name m s' (tries + 1) commits p) :
    Round name m s i tries commits [⟨i, false⟩] s' p
  | committed {s' : MemoryStore T ρ} (hattempts : s'.updateAttempts = s.updateAttempts + 1)
      (hle : tries ≤ commits) (v : Versioned T) :
    Round name m s i tries commits [⟨i, true⟩] s' (.done (.ok v))

namespace Racing

variable {T ρ : Type} [Resource T] {name : String} {m : Mutator T} {s : MemoryStore T ρ}
  {tries commits : Nat}

/-- With attempts left, a client that met a conflict pauses. -/
theorem of_conflict {message : String} (left : Nat) (backoff : Backoff) (hlt : tries < commits)
    (henough : m.config.maxAttempts = 0 ∨ commits < m.config.maxAttempts) :
    Racing name m s (tries + 1) commits
      (afterUpdate name m.config m.mutation left (tries + 1) backoff
        (.error (.conflict (Resource.kindName T) name message))) := by
  have hmore : m.config.isExhausted (tries + 1) = false :=
    RetryConfig.isExhausted_eq_false_iff.mpr (by omega)
  rw [afterUpdate_again rfl hmore]
  exact .pausing left backoff hlt

/-- What a client reads is up to date when it reads it. -/
theorem read (left : Nat) (backoff : Backoff) (hle : tries ≤ commits) (calm : s.Calm name)
    (i : Nat) :
    Round name m s i tries commits [] (s.serve (.get name)).2
        ((Program.ofOutcome (s.serve (.get name)).1).bind
          (afterRead name m.config m.mutation left (tries + 1) backoff)) ∧
      (s.serve (.get name)).2.Calm name := by
  obtain ⟨entry, hentry⟩ := calm.entry
  have hread : s.serve (.get name) = _ :=
    MemoryStore.get_quiet calm.reconciler calm.foreignWrites hentry
  rw [hread]
  refine ⟨.read rfl rfl ?_, ⟨entry, hentry⟩, calm.reconciler, calm.foreignWrites⟩
  simp only [Program.ofOutcome, Program.bind, afterRead]
  cases m.mutation entry.snapshot.object with
  | panicked payload => exact .panicked payload hle
  | returned desired =>
    refine .writing left backoff hle fun stored hstored hversion => ?_
    obtain rfl := Option.some.inj (hentry.symm.trans hstored)
    exact absurd rfl hversion

/-- An update commits, or someone else has committed since the read. -/
theorem update {snapshot : Versioned T} (desired : T) (left : Nat) (backoff : Backoff)
    (hle : tries ≤ commits)
    (hstale : ∀ entry, s.objects[name]? = some entry →
      toString entry.version ≠ snapshot.version → tries < commits)
    (calm : s.Calm name) (i : Nat)
    (henough : m.config.maxAttempts = 0 ∨ commits < m.config.maxAttempts) :
    Round name m s i tries commits
        (Contention.attemptsOf i s (.update name desired snapshot.version))
        (s.serve (.update name desired snapshot.version)).2
        ((Program.ofOutcome (s.serve (.update name desired snapshot.version)).1).bind
          (afterUpdate name m.config m.mutation left (tries + 1) backoff)) ∧
      (s.serve (.update name desired snapshot.version)).2.Calm name := by
  obtain ⟨entry, hentry⟩ := calm.entry
  rw [MemoryStore.serve_update, Contention.attemptsOf]
  by_cases hversion : toString entry.version = snapshot.version
  · rw [← hversion, MemoryStore.update_current desired hentry]
    refine ⟨.committed rfl hle _, ⟨⟨desired, s.counter + 1⟩, ?_⟩, calm.reconciler,
      calm.foreignWrites⟩
    exact (MemoryStore.getElem?_commit _ _ _ _).trans (if_pos rfl)
  · obtain ⟨message, heq⟩ := MemoryStore.update_stale desired hentry hversion
    have hlt := hstale entry hentry hversion
    rw [heq]
    refine ⟨.refused rfl rfl hlt ?_, ⟨entry, hentry⟩, calm.reconciler, calm.foreignWrites⟩
    exact of_conflict left backoff hlt henough

theorem call {call : StoreCall T}
    {next : Attempted call.Answer → StoreProgram T (Except Error (Versioned T))}
    (h : Racing name m s tries commits (.ask (.call call) next)) (calm : s.Calm name) (i : Nat)
    (henough : m.config.maxAttempts = 0 ∨ commits < m.config.maxAttempts) :
    Round name m s i tries commits (Contention.attemptsOf i s call) (s.serve call).2
        (next (s.serve call).1) ∧
      (s.serve call).2.Calm name := by
  generalize hp : Program.ask (I := (storeInterface T).timed) (.call call) next = p at h
  cases h with
  | reading left backoff hle =>
    cases left with
    | zero => cases hp
    | succ left =>
      rw [cycleFrom_succ] at hp
      cases hp
      exact read left backoff hle calm i
  | @writing snapshot desired left backoff hle hstale =>
    cases hp
    exact update desired left backoff hle hstale calm i henough
  | pausing =>
    rw [Backoff.pause_eq] at hp
    cases hp
  | sleeping => cases hp
  | panicked => cases hp

end Racing

/-! ## All clients together -/

namespace Contention

variable {T ρ : Type} [Resource T] {name : String} {mutators : List (Mutator T)}
  {store s' : MemoryStore T ρ} {c c' : Contention T ρ} {log more : List Attempt} {i j : Nat}
  {m : Mutator T} {p p' : StoreProgram T (Except Error (Versioned T))}

/-- Where a client stands: it races, or it has committed. -/
def Position (name : String) (m : Mutator T) (s : MemoryStore T ρ) (log : List Attempt) (i : Nat)
    (p : StoreProgram T (Except Error (Versioned T))) : Prop :=
  Racing name m s (tries log i) (winners log).length p ∧ i ∉ winners log ∨ ∃ v, p = .done (.ok v)

/-- The attempts of others leave a client where it stands. -/
theorem Position.of_others (h : Position name m store log j p) (hothers : ∀ a ∈ more, a.client ≠ j)
    (hobjects : s'.objects = store.objects ∨ winners more ≠ []) :
    Position name m s' (log ++ more) j p := by
  rcases h with ⟨hracing, hnew⟩ | ⟨v, rfl⟩
  · refine .inl ⟨?_, ?_⟩
    · rw [tries_append, tries_eq_zero hothers, winners_append, List.length_append]
      refine hracing.of_others ?_
      cases hmore : winners more with
      | nil =>
        rw [hmore] at hobjects
        exact .inl ⟨by rw [hobjects.resolve_right (absurd rfl)], rfl⟩
      | cons winner others =>
        rw [List.length_cons]
        exact .inr (by omega)
    · rw [winners_append, List.mem_append, not_or]
      refine ⟨hnew, fun hmem => ?_⟩
      obtain ⟨a, ha, hclient⟩ := mem_winners hmem
      exact hothers a ha hclient
  · exact .inr ⟨v, rfl⟩

/-- What holds at every moment, if only the clients write. -/
structure Orderly (name : String) (mutators : List (Mutator T)) (store : MemoryStore T ρ)
    (log : List Attempt) (c : Contention T ρ) : Prop where
  calm : c.store.Calm name
  attempts : c.store.updateAttempts = store.updateAttempts + log.length
  paced : Paced mutators.length log
  client : ∀ i p, c.clients[i]? = some p → ∃ m, mutators[i]? = some m ∧
    Position name m c.store log i p

theorem orderly_start (calm : store.Calm name) :
    Orderly name mutators store [] (start name mutators store) := by
  refine ⟨calm, rfl, .nil, fun i p hp => ?_⟩
  simp only [start, List.getElem?_map] at hp
  obtain ⟨m, hm, rfl⟩ := Option.map_eq_some_iff.mp hp
  exact ⟨m, hm, .inl ⟨.reading countLimit (.ofConfig m.config) (Nat.le_refl 0), List.not_mem_nil⟩⟩

/-- A client that can still ask races. -/
theorem Position.racing {query : (storeInterface T).timed.Query}
    {next : (storeInterface T).timed.Reply query → StoreProgram T (Except Error (Versioned T))}
    (h : Position name m store log i (.ask query next)) :
    Racing name m store (tries log i) (winners log).length (.ask query next) ∧
      i ∉ winners log := by
  rcases h with hracing | ⟨v, hdone⟩
  · exact hracing
  · cases hdone

/-- A step of one client, if that client stands as it should afterwards. -/
theorem Orderly.of_client (h : Orderly name mutators store log c) (hm : mutators[i]? = some m)
    (hattempts : s'.updateAttempts = c.store.updateAttempts + more.length)
    (calm : s'.Calm name) (paced : Paced mutators.length (log ++ more))
    (hmore : ∀ a ∈ more, a.client = i)
    (hobjects : s'.objects = c.store.objects ∨ winners more ≠ [])
    (hposition : Position name m s' (log ++ more) i p') :
    Orderly name mutators store (log ++ more) ⟨s', c.clients.set i p'⟩ := by
  refine ⟨calm, ?_, paced, fun j p hp => ?_⟩
  · rw [hattempts, h.attempts, List.length_append, Nat.add_assoc]
  · rw [List.getElem?_set] at hp
    by_cases hij : i = j
    · subst hij
      rw [if_pos rfl] at hp
      split at hp
      · obtain rfl := Option.some.inj hp
        exact ⟨m, hm, hposition⟩
      · cases hp
    · rw [if_neg hij] at hp
      obtain ⟨m', hm', hother⟩ := h.client j p hp
      exact ⟨m', hm', hother.of_others (fun a ha => hmore a ha ▸ hij) hobjects⟩

theorem Orderly.step (h : Orderly name mutators store log c)
    (henough : ∀ m ∈ mutators, m.config.maxAttempts = 0 ∨
      mutators.length ≤ m.config.maxAttempts) (move : Move c more c') :
    Orderly name mutators store (log ++ more) c' := by
  cases move with
  | @call i call next hnext =>
    obtain ⟨m, hm, hposition⟩ := h.client _ _ hnext
    obtain ⟨hracing, hnew⟩ := hposition.racing
    obtain ⟨hi, -⟩ := List.getElem?_eq_some_iff.mp hm
    -- a client that is still racing has not won, so there are fewer winners than clients
    have hlt := h.paced.length_winners_lt hi hnew
    have hleft : m.config.maxAttempts = 0 ∨ (winners log).length < m.config.maxAttempts :=
      (henough m (List.mem_of_getElem? hm)).imp_right (Nat.lt_of_lt_of_le hlt)
    obtain ⟨round, calm⟩ := hracing.call h.calm i hleft
    generalize Contention.attemptsOf i c.store call = more at round
    generalize (c.store.serve call).2 = s', next (c.store.serve call).1 = p' at round calm
    cases round with
    | read hobjects hattempts racing =>
      refine h.of_client hm hattempts calm ?_ (by simp) (.inl hobjects) ?_
      · rw [List.append_nil]
        exact h.paced
      · rw [List.append_nil]
        exact .inl ⟨racing, hnew⟩
    | refused hobjects hattempts hlt racing =>
      refine h.of_client hm hattempts calm (h.paced.refused hi hnew hlt) (by simp)
        (.inl hobjects) (.inl ⟨?_, ?_⟩)
      · simpa using racing
      · simpa using hnew
    | committed hattempts hle v =>
      exact h.of_client hm hattempts calm (h.paced.accepted hi hnew hle) (by simp)
        (.inr (by simp)) (.inr ⟨v, rfl⟩)
  | time hquery hnext reply =>
    obtain ⟨m, hm, hposition⟩ := h.client _ _ hnext
    obtain ⟨hracing, hnew⟩ := hposition.racing
    refine h.of_client hm rfl h.calm ?_ (by simp) (.inl rfl) ?_
    · rw [List.append_nil]
      exact h.paced
    · rw [List.append_nil]
      exact .inl ⟨hracing.time hquery reply, hnew⟩

theorem Moves.orderly (moves : Moves (start name mutators store) log c) (calm : store.Calm name)
    (henough : ∀ m ∈ mutators, m.config.maxAttempts = 0 ∨
      mutators.length ≤ m.config.maxAttempts) : Orderly name mutators store log c := by
  induction moves with
  | nil => exact orderly_start calm
  | step _ move ih => exact ih.step henough move

/-- Clients that update an object which nobody else writes, each of which may make as many attempts
as there are clients, never fail, whatever the order of their calls. The one that commits as number
`k` has made `k` attempts at most, and the store sees no more than the sum of the first `n` numbers
of them. -/
theorem enough_attempts {entry : Entry T} (hentry : store.objects[name]? = some entry)
    (hreconciler : store.reconciler = none) (hforeign : store.foreignWrites = 0)
    (henough : ∀ m ∈ mutators, m.config.maxAttempts = 0 ∨
      mutators.length ≤ m.config.maxAttempts)
    (moves : Moves (start name mutators store) log c) :
    (∀ (i : Nat) (e : Error), c.clients[i]? ≠ some (.done (.error e))) ∧
      (∀ before i after, log = before ++ ⟨i, true⟩ :: after →
        tries (before ++ [⟨i, true⟩]) i ≤ (winners (before ++ [⟨i, true⟩])).length) ∧
      c.store.updateAttempts ≤
        store.updateAttempts + mutators.length * (mutators.length + 1) / 2 := by
  have horderly := moves.orderly ⟨⟨entry, hentry⟩, hreconciler, hforeign⟩ henough
  refine ⟨?_, fun before i after => horderly.paced.tries_of_commit, ?_⟩
  · intro i e hfailed
    obtain ⟨m, -, ⟨hracing, -⟩ | ⟨v, hdone⟩⟩ := horderly.client i _ hfailed
    · exact hracing.not_done _ rfl
    · cases hdone
  · rw [horderly.attempts]
    exact Nat.add_le_add_left horderly.paced.length_le _

section Quiet

variable {left attempt : Nat} {backoff : Backoff} {entry : Entry T} {desired : T}

theorem move_read (calm : c.store.Calm name) (hentry : c.store.objects[name]? = some entry)
    (hm : m.mutation entry.object = .returned desired)
    (hi : c.clients[i]? = some (cycleFrom name m.config m.mutation (left + 1) attempt backoff)) :
    Move c [] ⟨{ c.store with gets := c.store.gets + 1 },
      c.clients.set i ((StoreCall.update name desired (toString entry.version)).run.bind
        (afterUpdate name m.config m.mutation left attempt backoff))⟩ := by
  rw [cycleFrom_succ] at hi
  have move : Move c _ _ := .call hi
  have hread : c.store.serve (.get name) = _ :=
    MemoryStore.get_quiet calm.reconciler calm.foreignWrites hentry
  rw [hread] at move
  simpa only [attemptsOf, Program.ofOutcome, Program.bind, afterRead, Entry.snapshot, hm] using move

theorem move_commit (hentry : c.store.objects[name]? = some entry)
    (hi : c.clients[i]? = some ((StoreCall.update name desired (toString entry.version)).run.bind
        (afterUpdate name m.config m.mutation left attempt backoff))) :
    ∃ p, Move c [⟨i, true⟩]
      ⟨{ c.store with updateAttempts := c.store.updateAttempts + 1 }.commit name desired,
        c.clients.set i p⟩ := by
  have move : Move c _ _ := .call hi
  rw [attemptsOf, MemoryStore.serve_update, MemoryStore.update_current desired hentry] at move
  exact ⟨_, move⟩

theorem move_conflict {version : String} (hentry : c.store.objects[name]? = some entry)
    (hstale : toString entry.version ≠ version)
    (hi : c.clients[i]? = some ((StoreCall.update name desired version).run.bind
        (afterUpdate name m.config m.mutation left attempt backoff))) :
    ∃ c', Move c [⟨i, false⟩] c' := by
  have move : Move c _ _ := .call hi
  obtain ⟨message, hstale⟩ := MemoryStore.update_stale desired hentry hstale
  rw [attemptsOf, hstale] at move
  exact ⟨_, move⟩

end Quiet

/-- Two clients read the same pool; the first one commits, and the second one meets a conflict. -/
theorem enough_attempts_two :
    ∃ (m : Mutator Pool) (s : MemoryStore Pool Unit) (c : Contention Pool Unit),
      m.config.maxAttempts = 2 ∧ Moves (start "worker" [m, m] s) [⟨0, true⟩, ⟨1, false⟩] c ∧
        (∀ (i : Nat) (e : Error), c.clients[i]? ≠ some (.done (.error e))) ∧
        c.store.updateAttempts ≤ s.updateAttempts + 3 := by
  let pool : Pool := { name := "worker" }
  let m : Mutator Pool := ⟨.withMaxAttempts 2, .returned⟩
  let s : MemoryStore Pool Unit := MemoryStore.commit {} "worker" pool
  let reading : StoreProgram Pool (Except Error (Versioned Pool)) :=
    cycleFrom "worker" m.config m.mutation (countLimit - 1 + 1) 1 (.ofConfig m.config)
  let writing : StoreProgram Pool (Except Error (Versioned Pool)) :=
    (StoreCall.update "worker" pool (toString 1)).run.bind
      (afterUpdate "worker" m.config m.mutation (countLimit - 1) 1 (.ofConfig m.config))
  have hentry : s.objects["worker"]? = some ⟨pool, 1⟩ :=
    (MemoryStore.getElem?_commit _ _ _ _).trans (if_pos rfl)
  have hread₀ := move_read (c := ⟨s, [reading, reading]⟩) (i := 0) (m := m)
    ⟨⟨_, hentry⟩, rfl, rfl⟩ hentry rfl rfl
  have hread₁ := move_read (c := ⟨{ s with gets := 1 }, [writing, reading]⟩) (i := 1) (m := m)
    ⟨⟨_, hentry⟩, rfl, rfl⟩ hentry rfl rfl
  obtain ⟨p, hcommit⟩ := move_commit (c := ⟨{ s with gets := 2 }, [writing, writing]⟩) (i := 0)
    hentry rfl
  obtain ⟨c, hconflict⟩ := move_conflict
    (c := ⟨MemoryStore.commit { s with gets := 2, updateAttempts := 1 } "worker" pool,
      [p, writing]⟩) (i := 1)
    ((MemoryStore.getElem?_commit _ _ _ _).trans (if_pos rfl)) (by decide) rfl
  have moves : Moves (start "worker" [m, m] s) [⟨0, true⟩, ⟨1, false⟩] c :=
    (((Moves.nil.step hread₀).step hread₁).step hcommit).step hconflict
  have henough : ∀ m' ∈ [m, m], m'.config.maxAttempts = 0 ∨ 2 ≤ m'.config.maxAttempts := by
    intro m' hm'
    obtain rfl : m' = m := by simpa using hm'
    exact .inr (Nat.le_refl 2)
  obtain ⟨hfine, -, hattempts⟩ := enough_attempts hentry rfl rfl henough moves
  exact ⟨m, s, c, rfl, moves, hfine, by simpa using hattempts⟩

end Contention

end BuildTrial
