import Std.Data.String.ToNat
import BuildTrial.Proofs.Mutate.Settled
import BuildTrial.Proofs.Store.Contention

/-!
# No update is lost

Clients that contend for one object commit their mutations one after the other, whatever the order
of their calls. `Pending` is what is known of a client that has committed nothing: where in its cycle
it is, and, between its read and its update, that the store backs the snapshot it read. That last
fact outlasts every step of the others (`Pending.of_follows`), so an update that the store accepts
is the mutation of what is stored right then (`Pending.call`).
-/

namespace BuildTrial

open Mutate

/-- What a client has still to do that has committed nothing so far. -/
inductive Pending {T ρ : Type} [Resource T] (name : String) (m : Mutator T)
    (s : MemoryStore T ρ) : StoreProgram T (Except Error (Versioned T)) → Prop where
  | reading (left attempt : Nat) (backoff : Backoff) :
    Pending name m s (cycleFrom name m.config m.mutation left attempt backoff)
  /-- It has read a snapshot and is about to commit what it made of it. -/
  | writing {snapshot : Versioned T} {desired : T} (left attempt : Nat) (backoff : Backoff)
      (backs : s.Backs name snapshot) (hdesired : m.mutation snapshot.object = .returned desired) :
    Pending name m s
      ((StoreCall.update name desired snapshot.version).run.bind
        (afterUpdate name m.config m.mutation left attempt backoff))
  /-- It met a conflict. -/
  | pausing (left attempt : Nat) (backoff : Backoff) :
    Pending name m s
      (backoff.pause.bind fun after => cycleFrom name m.config m.mutation left attempt after)
  | sleeping (span : Duration) (left attempt : Nat) (backoff : Backoff) :
    Pending name m s
      (.ask (.sleep span) fun _ => cycleFrom name m.config m.mutation left attempt backoff)
  | failed (e : Error) : Pending name m s (.done (.error e))
  | panicked (payload : Panic) : Pending name m s (.panic payload)

namespace Pending

variable {T ρ : Type} [Resource T] {name : String} {m : Mutator T} {s s' : MemoryStore T ρ}
  {p : StoreProgram T (Except Error (Versioned T))}

theorem of_follows (h : Pending name m s p) (hf : MemoryStore.Follows s s') :
    Pending name m s' p := by
  cases h with
  | reading left attempt backoff => exact .reading left attempt backoff
  | writing left attempt backoff backs hdesired =>
    exact .writing left attempt backoff (backs.of_follows hf) hdesired
  | pausing left attempt backoff => exact .pausing left attempt backoff
  | sleeping span left attempt backoff => exact .sleeping span left attempt backoff
  | failed e => exact .failed e
  | panicked payload => exact .panicked payload

theorem not_ok (h : Pending name m s p) (v : Versioned T) : p ≠ .done (.ok v) := by
  rintro rfl
  generalize hp : (Program.done (.ok v) : StoreProgram T (Except Error (Versioned T))) = p at h
  cases h with
  | reading left attempt backoff => cases left <;> cases hp
  | writing => cases hp
  | pausing =>
    rw [Backoff.pause_eq] at hp
    cases hp
  | sleeping => cases hp
  | failed => cases hp
  | panicked => cases hp

/-- After its read a client is about to commit, unless there is nothing that it could commit. -/
theorem of_read (left attempt : Nat) (backoff : Backoff) {reply : Attempted (Versioned T)}
    (backs : ∀ v, reply = .returned (.ok v) → s.Backs name v) :
    Pending name m s ((Program.ofOutcome reply).bind
      (afterRead name m.config m.mutation left attempt backoff)) := by
  rcases reply with (e | current) | payload
  · exact .failed e
  · simp only [Program.ofOutcome, Program.bind, afterRead]
    cases hm : m.mutation current.object with
    | returned desired => exact .writing left attempt backoff (backs current rfl) hm
    | panicked payload => exact .panicked payload
  · exact .panicked payload

/-- After a refused update a client gives up or pauses. -/
theorem of_refusal (left attempt : Nat) (backoff : Backoff) (e : Error) :
    Pending name m s (afterUpdate name m.config m.mutation left attempt backoff (.error e)) := by
  unfold afterUpdate
  dsimp only
  split
  · exact .failed e
  split
  · exact .failed _
  · exact .pausing left (attempt + 1) backoff

/-- A client that sleeps or asks for the time or a chance is still pending, whatever it is told. -/
theorem time {query : (storeInterface T).timed.Query}
    {next : (storeInterface T).timed.Reply query → StoreProgram T (Except Error (Versioned T))}
    (h : Pending name m s (.ask query next)) (hquery : ∀ call, query ≠ .call call)
    (reply : (storeInterface T).timed.Reply query) : Pending name m s (next reply) := by
  generalize hp : Program.ask query next = p at h
  cases h with
  | reading left attempt backoff =>
    cases left with
    | zero => cases hp
    | succ left =>
      cases hp
      exact absurd rfl (hquery _)
  | writing =>
    cases hp
    exact absurd rfl (hquery _)
  | pausing left attempt backoff =>
    rw [Backoff.pause_eq] at hp
    cases hp
    dsimp only
    cases backoff.next reply with
    | returned pair => exact .sleeping pair.1 left attempt pair.2
    | panicked payload => exact .panicked payload
  | sleeping span left attempt backoff =>
    cases hp
    exact .reading left attempt backoff
  | failed => cases hp
  | panicked => cases hp

variable [DecidableEq T]

/-- A call of a pending client either leaves it pending and is none of its writes, or commits its
mutation of what is stored and is its last. -/
theorem call {call : StoreCall T} {i : Nat}
    {next : Attempted call.Answer → StoreProgram T (Except Error (Versioned T))}
    (h : Pending name m s (.ask (.call call) next)) (honest : s.Honest) (bounded : s.Bounded) :
    (Pending name m (s.serve call).2 (next (s.serve call).1) ∧
        s.writesOf name (fun _ => .mutated i) call = s.writesOf name .stored call) ∨
      ∃ object v, s.objectAt name = some object ∧ m.mutation object = .returned v.object ∧
        s.writesOf name (fun _ => .mutated i) call = [.mutated i] ∧
        next (s.serve call).1 = .done (.ok v) ∧ (s.serve call).2.peek? name = some v := by
  generalize hp : Program.ask (I := (storeInterface T).timed) (.call call) next = p at h
  cases h with
  | reading left attempt backoff =>
    cases left with
    | zero => cases hp
    | succ left =>
      rw [cycleFrom_succ] at hp
      cases hp
      refine .inl ⟨?_, rfl⟩
      exact of_read left attempt backoff ((MemoryStore.follows_get honest name).2 bounded)
  | @writing snapshot desired left attempt backoff backs hdesired =>
    cases hp
    rw [MemoryStore.serve_update, MemoryStore.writesOf_update, MemoryStore.writesOf_update]
    rcases MemoryStore.update_cases s name desired snapshot.version with
      ⟨e, heq⟩ | ⟨entry, hentry, hversion, heq⟩
    · rw [heq]
      refine .inl ⟨of_refusal left attempt backoff e, ?_⟩
      rw [MemoryStore.accepted_error, MemoryStore.accepted_error]
    · rw [heq]
      obtain ⟨version, -, hsnapshot, hobject⟩ := backs
      -- a version is written in one way only, so the entry has the version of the snapshot
      have hsame : entry.object = snapshot.object :=
        hobject entry hentry (Nat.repr_inj.mp (hversion.trans hsnapshot))
      refine .inr ⟨entry.object, ⟨desired, toString (s.counter + 1)⟩, ?_, ?_, ?_, rfl, ?_⟩
      · rw [MemoryStore.objectAt, hentry]
        rfl
      · rw [hsame]
        exact hdesired
      · exact if_pos ⟨rfl, rfl⟩
      · rw [MemoryStore.peek?, MemoryStore.getElem?_commit, if_pos rfl]
        rfl
  | pausing =>
    rw [Backoff.pause_eq] at hp
    cases hp
  | sleeping => cases hp
  | failed => cases hp
  | panicked => cases hp

end Pending

namespace Contention

variable {T ρ : Type} [Resource T] [DecidableEq T] {name : String} {mutators : List (Mutator T)}
  {store : MemoryStore T ρ} {c₀ c c' : Contention T ρ} {writes more : List (Write T)} {i : Nat}
  {m : Mutator T} {p : StoreProgram T (Except Error (Versioned T))}

theorem Step.follows (h : Step name c more c') (honest : c.store.Honest) :
    MemoryStore.Follows c.store c'.store := by
  cases h with
  | call => exact MemoryStore.follows_serve honest _
  | time => exact .of_eq honest rfl rfl rfl
  | outside call => exact MemoryStore.follows_serve honest call
  | put object => exact MemoryStore.follows_commit honest _ object
  | foreignWrites n => exact .of_eq honest rfl rfl rfl
  | refuseDeletes names => exact .of_eq honest rfl rfl rfl

theorem CommittedOnce.of_step {v : Versioned T} (h : CommittedOnce name i m v c₀ writes c)
    (step : Step name c more c') (hmore : .mutated i ∉ more) :
    CommittedOnce name i m v c₀ (writes ++ more) c' := by
  obtain ⟨before, c₁, c₂, after, object, hbefore, hcommit, hafter, rfl, hfirst, hlast, hobject⟩ := h
  refine ⟨before, c₁, c₂, after ++ more, object, hbefore, hcommit, hafter.step step, ?_, hfirst, ?_,
    hobject⟩
  · rw [List.append_assoc, List.cons_append]
  · rw [List.mem_append]
    exact not_or.mpr ⟨hlast, hmore⟩

/-- Where a client stands: it has committed nothing yet, or it has committed once and is done. -/
def Standing (name : String) (i : Nat) (m : Mutator T) (c₀ : Contention T ρ)
    (writes : List (Write T)) (c : Contention T ρ)
    (p : StoreProgram T (Except Error (Versioned T))) : Prop :=
  Pending name m c.store p ∧ .mutated i ∉ writes ∨
    ∃ v, p = .done (.ok v) ∧ CommittedOnce name i m v c₀ writes c

/-- A step of another leaves a client where it stands. -/
theorem Standing.of_step (h : Standing name i m c₀ writes c p) (honest : c.store.Honest)
    (step : Step name c more c') (hmore : .mutated i ∉ more) :
    Standing name i m c₀ (writes ++ more) c' p := by
  rcases h with ⟨hpending, hnone⟩ | ⟨v, rfl, honce⟩
  · refine .inl ⟨hpending.of_follows (step.follows honest), ?_⟩
    rw [List.mem_append]
    exact not_or.mpr ⟨hnone, hmore⟩
  · exact .inr ⟨v, rfl, honce.of_step step hmore⟩

/-- What holds at every moment: the store is sound, its object is what the writes so far make of the
first one, and every client is pending or has committed once. -/
structure Sound (name : String) (mutators : List (Mutator T)) (store : MemoryStore T ρ)
    (writes : List (Write T)) (c : Contention T ρ) : Prop where
  honest : c.store.Honest
  bounded : c.store.Bounded
  object : c.store.objectAt name =
    writes.foldl (Write.apply mutators) (store.objectAt name)
  client : ∀ i p, c.clients[i]? = some p → ∃ m, mutators[i]? = some m ∧
    Standing name i m (start name mutators store) writes c p

theorem sound_start (honest : store.Honest) (bounded : store.Bounded) :
    Sound name mutators store [] (start name mutators store) := by
  refine ⟨honest, bounded, rfl, ?_⟩
  intro i p hp
  simp only [start, List.getElem?_map] at hp
  obtain ⟨m, hm, rfl⟩ := Option.map_eq_some_iff.mp hp
  exact ⟨m, hm, .inl ⟨.reading countLimit 1 (.ofConfig m.config), List.not_mem_nil⟩⟩

/-- A step that is no client's writes what it says it writes, and nothing as a client. -/
theorem Sound.of_others (h : Sound name mutators store writes c) (step : Step name c more c')
    (hclients : c'.clients = c.clients) (hmore : ∀ i, .mutated i ∉ more)
    (hobject : c'.store.objectAt name =
      more.foldl (Write.apply mutators) (c.store.objectAt name)) :
    Sound name mutators store (writes ++ more) c' := by
  have hfollows := step.follows h.honest
  refine ⟨hfollows.honest, hfollows.bounded h.bounded, ?_, ?_⟩
  · rw [hobject, h.object, List.foldl_append]
  · intro i p hp
    rw [hclients] at hp
    obtain ⟨m, hm, hstanding⟩ := h.client i p hp
    exact ⟨m, hm, hstanding.of_step h.honest step (hmore i)⟩

/-- A step of a client, if that client stands as it should afterwards. -/
theorem Sound.of_client (h : Sound name mutators store writes c) (step : Step name c more c')
    (hclients : c'.clients = c.clients.set i p) (hm : mutators[i]? = some m)
    (hstanding : Standing name i m (start name mutators store) (writes ++ more) c' p)
    (hmore : ∀ j, j ≠ i → .mutated j ∉ more)
    (hobject : c'.store.objectAt name =
      more.foldl (Write.apply mutators) (c.store.objectAt name)) :
    Sound name mutators store (writes ++ more) c' := by
  have hfollows := step.follows h.honest
  refine ⟨hfollows.honest, hfollows.bounded h.bounded, ?_, ?_⟩
  · rw [hobject, h.object, List.foldl_append]
  · intro j q hq
    rw [hclients, List.getElem?_set] at hq
    by_cases hij : i = j
    · subst hij
      rw [if_pos rfl] at hq
      split at hq
      · obtain rfl := Option.some.inj hq
        exact ⟨m, hm, hstanding⟩
      · cases hq
    · rw [if_neg hij] at hq
      obtain ⟨m', hm', hother⟩ := h.client j q hq
      exact ⟨m', hm', hother.of_step h.honest step (hmore j (Ne.symm hij))⟩

/-- A client that can still ask has committed nothing. -/
theorem Standing.pending {query : (storeInterface T).timed.Query}
    {next : (storeInterface T).timed.Reply query → StoreProgram T (Except Error (Versioned T))}
    (h : Standing name i m c₀ writes c (.ask query next)) :
    Pending name m c.store (.ask query next) ∧ .mutated i ∉ writes := by
  rcases h with hpending | ⟨v, hdone, -⟩
  · exact hpending
  · cases hdone

/-- A call of a client keeps everything in order: it is not one of its writes, or it commits its
mutation of what is stored. -/
theorem Sound.call (h : Sound name mutators store writes c)
    (run : Run name (start name mutators store) writes c) {call : StoreCall T}
    {next : Attempted call.Answer → StoreProgram T (Except Error (Versioned T))}
    (hnext : c.clients[i]? = some (.ask (.call call) next)) :
    Sound name mutators store (writes ++ c.store.writesOf name (fun _ => .mutated i) call)
      ⟨(c.store.serve call).2, c.clients.set i (next (c.store.serve call).1)⟩ := by
  have step : Step name c _ _ := .call hnext
  have hothers : ∀ j, j ≠ i → .mutated j ∉ c.store.writesOf name (fun _ => .mutated i) call := by
    intro j hj
    exact MemoryStore.mutated_not_mem_writesOf (fun _ => by simpa using Ne.symm hj) call
  obtain ⟨m, hm, hstanding⟩ := h.client i _ hnext
  obtain ⟨hpending, hnone⟩ := hstanding.pending
  rcases hpending.call (i := i) h.honest h.bounded with
    ⟨hafter, hwrites⟩ | ⟨object, v, hobject, hmutation, hwrites, hdone, hstored⟩
  · refine h.of_client step rfl hm (.inl ⟨hafter, ?_⟩) hothers ?_
    · rw [hwrites, List.mem_append]
      exact not_or.mpr ⟨hnone, MemoryStore.mutated_not_mem_writesOf (by simp) call⟩
    · rw [hwrites]
      exact MemoryStore.objectAt_serve call fun _ _ _ _ _ => rfl
  · rw [hwrites] at step hothers ⊢
    refine h.of_client step rfl hm (.inr ⟨v, hdone, ?_⟩) hothers ?_
    · exact ⟨writes, c, _, [], object, run, step, .nil, rfl, hnone, List.not_mem_nil, hobject,
        hmutation, hstored⟩
    · -- the object of the answer is the one that is stored
      show (c.store.serve call).2.objectAt name = mutators[i]?.bind _
      rw [hm, hobject]
      show _ = (m.mutation object).answer?
      rw [hmutation, MemoryStore.objectAt_of_peek? hstored]
      rfl

theorem Sound.step (h : Sound name mutators store writes c)
    (run : Run name (start name mutators store) writes c) (step : Step name c more c') :
    Sound name mutators store (writes ++ more) c' := by
  cases step with
  | call hnext => exact h.call run hnext
  | time hquery hnext reply =>
    obtain ⟨m, hm, hstanding⟩ := h.client _ _ hnext
    obtain ⟨hpending, hnone⟩ := hstanding.pending
    refine h.of_client (.time hquery hnext reply) rfl hm ?_ (by simp) rfl
    rw [List.append_nil]
    exact .inl ⟨hpending.time hquery reply, hnone⟩
  | outside call =>
    refine h.of_others (.outside c call) rfl ?_ ?_
    · exact fun i => MemoryStore.mutated_not_mem_writesOf (by simp) call
    · exact MemoryStore.objectAt_serve call fun _ _ _ _ _ => rfl
  | put object =>
    refine h.of_others (.put c object) rfl ?_ ?_
    · intro i
      split <;> simp
    · refine (MemoryStore.objectAt_commit _ object).trans ?_
      split <;> rfl
  | foreignWrites n => exact h.of_others (.foreignWrites c n) rfl (by simp) rfl
  | refuseDeletes names => exact h.of_others (.refuseDeletes c names) rfl (by simp) rfl

theorem Run.sound (run : Run name (start name mutators store) writes c) (honest : store.Honest)
    (bounded : store.Bounded) : Sound name mutators store writes c := by
  induction run with
  | nil => exact sound_start honest bounded
  | step run step ih => exact ih.step run step

/-- Whatever the order of the calls of the clients, of others and of the reconciler, what is stored
at any moment is the result of the committed writes in their order; a client that ended well had its
mutation applied once, to what was stored just before, and its answer is what was stored then; and
any other client had its mutation applied not at all. -/
theorem no_lost_update (hempty : store.objects = ∅) (honest : store.Honest)
    (run : Run name (start name mutators store) writes c) :
    c.store.objectAt name = writes.foldl (Write.apply mutators) none ∧
      ∀ i p, c.clients[i]? = some p → ∃ m, mutators[i]? = some m ∧
        (∀ v, p = .done (.ok v) →
          CommittedOnce name i m v (start name mutators store) writes c) ∧
        ((∀ v, p ≠ .done (.ok v)) → .mutated i ∉ writes) := by
  have bounded : store.Bounded := by
    intro n e he
    rw [hempty, Std.ExtTreeMap.getElem?_empty] at he
    cases he
  have hnone : store.objectAt name = none := by
    rw [MemoryStore.objectAt, hempty, Std.ExtTreeMap.getElem?_empty]
    rfl
  have hsound := run.sound honest bounded
  refine ⟨hnone ▸ hsound.object, ?_⟩
  intro i p hp
  obtain ⟨m, hm, hstanding⟩ := hsound.client i p hp
  refine ⟨m, hm, ?_⟩
  rcases hstanding with ⟨hpending, hnever⟩ | ⟨v, rfl, honce⟩
  · exact ⟨fun v hv => absurd hv (hpending.not_ok v), fun _ => hnever⟩
  · refine ⟨?_, fun hv => absurd rfl (hv v)⟩
    rintro _ ⟨⟩
    exact honce

/-- A client that puts a label on the pool. -/
def labeller (label : String) : Mutator Pool :=
  ⟨.forConflicts, fun pool => .returned (addLabel label pool)⟩

/-- An empty store with a controller that starts to build every pool that is idle. -/
def buildingStore : MemoryStore Pool Unit where
  reconciler := some
    ⟨(), fun _ pool =>
      if pool.state = .idle then ((), { pool with state := .building }, .returned true)
      else ((), pool, .returned false)⟩

theorem honest_buildingStore : buildingStore.Honest := by
  rintro _ ⟨⟩ memory pool
  by_cases hidle : pool.state = .idle
  · exact ⟨(), _, true, if_pos hidle, fun _ => rfl⟩
  · exact ⟨(), _, false, if_neg hidle, fun h => absurd rfl h⟩

/-- What someone else makes of the pool once the first client has labelled it. -/
def publishedPool : Pool where
  name := "worker"
  labels := .ofList [("edge", "")]
  state := .building
  image := some "registry/os-image"

/-- Both clients read the pool, both write it, and someone else publishes an image. Then the second client
draws its random factor, sleeps, reads and writes. -/
def contendingTurns : List (Turn Pool) :=
  [.put { name := "worker" }, .client 0, .client 1, .client 0, .client 1,
    .outside (.update "worker" publishedPool "3"), .client 1, .client 1, .client 1, .client 1]

/-- Two clients put a label on one pool. Both have read it, after its controller changed it, when the first
one commits; the second one meets a conflict and someone else writes before it tries again. The pool has
both labels in the end, and the image. -/
theorem no_lost_update_contended :
    ∃ writes c v₀ v₁,
      Run "worker" (start "worker" [labeller "edge", labeller "gpu"] buildingStore) writes c ∧
      writes =
        [.stored { name := "worker" }, .stored { name := "worker", state := .building }, .mutated 0,
          .stored publishedPool, .mutated 1] ∧
      c.clients[0]? = some (.done (.ok v₀)) ∧
      CommittedOnce "worker" 0 (labeller "edge") v₀
        (start "worker" [labeller "edge", labeller "gpu"] buildingStore) writes c ∧
      c.clients[1]? = some (.done (.ok v₁)) ∧
      CommittedOnce "worker" 1 (labeller "gpu") v₁
        (start "worker" [labeller "edge", labeller "gpu"] buildingStore) writes c ∧
      c.store.objectAt "worker" =
        writes.foldl (Write.apply [labeller "edge", labeller "gpu"]) none ∧
      c.store.objectAt "worker" =
        some { publishedPool with labels := .ofList [("edge", ""), ("gpu", "")] } := by
  have hplayed : (play "worker" contendingTurns
      ([], start "worker" [labeller "edge", labeller "gpu"] buildingStore)).map
        (fun (writes, c) => (writes, c.answers, c.store.objectAt "worker")) =
      some
        ([.stored { name := "worker" }, .stored { name := "worker", state := .building },
            .mutated 0, .stored publishedPool, .mutated 1],
          [some ⟨{ publishedPool with image := none }, "3"⟩,
            some ⟨{ publishedPool with labels := .ofList [("edge", ""), ("gpu", "")] }, "5"⟩],
          some { publishedPool with labels := .ofList [("edge", ""), ("gpu", "")] }) := by
    decide +kernel
  obtain ⟨⟨writes, c⟩, hplay, hend⟩ := Option.map_eq_some_iff.mp hplayed
  simp only [Prod.mk.injEq] at hend
  obtain ⟨hwrites, hanswers, hobject⟩ := hend
  have run := run_of_play .nil hplay
  obtain ⟨hfold, hclients⟩ := no_lost_update rfl honest_buildingStore run
  have hfirst : c.clients[0]? = some (.done (.ok _)) := client_of_answers (by rw [hanswers]; rfl)
  have hsecond : c.clients[1]? = some (.done (.ok _)) := client_of_answers (by rw [hanswers]; rfl)
  obtain ⟨_, ⟨⟩, honce₀, -⟩ := hclients 0 _ hfirst
  obtain ⟨_, ⟨⟩, honce₁, -⟩ := hclients 1 _ hsecond
  exact ⟨writes, c, _, _, run, hwrites, hfirst, honce₀ _ rfl, hsecond, honce₁ _ rfl, hfold, hobject⟩

end Contention

end BuildTrial
