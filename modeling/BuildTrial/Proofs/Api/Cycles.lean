import BuildTrial.Proofs.Api.NormalForm
import BuildTrial.Proofs.Api.Requests
import BuildTrial.Proofs.Mutate.Settled

/-!
# An update that tolerates conflicts, request by request

On the store of an API server each cycle of `mutate` reads the object twice, once for the mutation
and once for the update, and sends a replacement only if both reads found the same version.
`ApiStore.Cycles` says of a whole run what can be said without knowing anything of the API server:
every replacement comes right after its two reads (`Replaces`), all but the last one were refused, and
an answer that is a success is read off the reply to the last one. `cycles_of_runs` shows it of every
run, whatever the API server replies.
-/

namespace BuildTrial

/-! ## Errors -/

namespace Api

/-- No failed request means that attempts are used up. -/
theorem ClientError.toError_ne_exhausted (e : ClientError) (kindName name verb resource n : String)
    (attempts : Nat) : e.toError kindName name verb ≠ .conflictExhausted resource n attempts := by
  unfold toError
  split
  · split
    · simp
    split
    · split <;> simp
    · simp
  · simp

/-- What needs a name and nothing else fails in one way only. -/
theorem serialization_of_nameOf_bind {α : Type} {kind : Kind} {object : Object} {e : Error}
    {f : String → Except Error α} (hf : ∀ n, ∃ a, f n = .ok a)
    (h : (nameOf kind object >>= f) = .error e) :
    ∃ message resource, e = .serialization message resource := by
  unfold nameOf at h
  cases hname : object.metadata.name with
  | some n =>
    obtain ⟨a, ha⟩ := hf n
    rw [hname] at h
    cases ha.symm.trans h
  | none =>
    rw [hname] at h
    exact ⟨_, _, (Except.error.inj h).symm⟩

end Api

open Api in
/-- An object that stands for no resource is one kind of error for all resources. -/
theorem Kind.read_error {kind : Kind} {object : Object} {e : Error} (h : kind.read object = .error e) :
    ∃ message resource, e = .serialization message resource := by
  cases kind with
  | pool => exact serialization_of_nameOf_bind (fun _ => ⟨_, rfl⟩) h
  | imageRepository => exact serialization_of_nameOf_bind (fun _ => ⟨_, rfl⟩) h
  | node => exact serialization_of_nameOf_bind (fun _ => ⟨_, rfl⟩) h
  | machine => exact serialization_of_nameOf_bind (fun _ => ⟨_, rfl⟩) h
  | configMap =>
    change readConfigMap object = .error e at h
    unfold readConfigMap at h
    split at h
    · exact ⟨_, _, (Except.error.inj h).symm⟩
    · exact serialization_of_nameOf_bind (fun _ => ⟨_, rfl⟩) h
  | secret =>
    change readSecret object = .error e at h
    unfold readSecret at h
    split at h
    · exact ⟨_, _, (Except.error.inj h).symm⟩
    · exact serialization_of_nameOf_bind (fun _ => ⟨_, rfl⟩) h

end BuildTrial

namespace BuildTrial.Api

namespace ApiStore

variable {kind : Kind} {name : String}

/-! ## The parts of a run -/

/-- A call on the store, and what is done with its answer. -/
theorem runs_call_bind_iff {α : Type} {call : StoreCall kind.Model}
    {f : Except Error call.Answer → StoreProgram kind.Model α} {t : HttpTrace} {o : Outcome α} :
    (run kind (call.run.bind f)).Runs t o ↔
      (∃ t₁ r t₂, t = t₁ ++ t₂ ∧ (answer kind call).run.Runs t₁ (.returned r) ∧
          (run kind (f r)).Runs t₂ o) ∨
        ∃ payload, (answer kind call).run.Runs t (.panicked payload) ∧ o = .panicked payload := by
  change ((serve kind call).bind fun reply => run kind ((Program.ofOutcome reply).bind f)).Runs t o
    ↔ _
  rw [Program.runs_bind_iff]
  constructor
  · rintro (⟨t₁, reply, t₂, rfl, hserve, hrest⟩ | ⟨payload, hserve, -⟩)
    · obtain ⟨reply', hanswer, ⟨rfl⟩⟩ := Program.runs_attempt_iff.mp hserve
      cases reply with
      | returned r => exact .inl ⟨t₁, r, t₂, rfl, hanswer, hrest⟩
      | panicked payload =>
        obtain ⟨rfl, rfl⟩ := Program.runs_panic_iff.mp hrest
        exact .inr ⟨payload, by rwa [List.append_nil], rfl⟩
    · obtain ⟨_, -, heq⟩ := Program.runs_attempt_iff.mp hserve
      cases heq
  · rintro (⟨t₁, r, t₂, rfl, hanswer, hrest⟩ | ⟨payload, hanswer, rfl⟩)
    · exact .inl ⟨t₁, .returned r, t₂, rfl, Program.runs_attempt_iff.mpr ⟨_, hanswer, rfl⟩, hrest⟩
    · exact .inl ⟨t, .panicked payload, [], (List.append_nil t).symm,
        Program.runs_attempt_iff.mpr ⟨_, hanswer, rfl⟩, .panic payload⟩

/-- A question that commits nothing, whatever the reply. -/
inductive Quiet : HttpEvent → Prop where
  | get (path : String) (reply : Reply) : Quiet ⟨.call ⟨.get, path, none⟩, reply⟩
  | jitter (factor : Jitter) : Quiet ⟨.jitter, factor⟩
  | sleep (span : Duration) : Quiet ⟨.sleep span, ()⟩

/-- A pause, and what is done after it. -/
theorem runs_pause_bind_iff {α : Type} {backoff : Backoff} {f : Backoff → StoreProgram kind.Model α}
    {t : HttpTrace} {o : Outcome α} :
    (run kind (backoff.pause.bind f)).Runs t o ↔ ∃ factor more, t = ⟨.jitter, factor⟩ :: more ∧
      ((∃ span after rest, backoff.next factor = .returned (span, after) ∧
          more = ⟨.sleep span, ()⟩ :: rest ∧ (run kind (f after)).Runs rest o) ∨
        ∃ payload, backoff.next factor = .panicked payload ∧ more = [] ∧ o = .panicked payload) := by
  rw [Backoff.pause_eq]
  refine Program.runs_ask_iff.trans (exists_congr fun factor => exists_congr fun more =>
    and_congr_right fun _ => ?_)
  -- the random factor is the answer of a program of its own
  simp only [Program.bind]
  cases backoff.next factor with
  | returned pair =>
    obtain ⟨span, after⟩ := pair
    simp only [reduceCtorEq, false_and, exists_false, or_false, Outcome.returned.injEq,
      Prod.mk.injEq]
    constructor
    · intro h
      obtain ⟨⟨⟩, rest, rfl, hrest⟩ := Program.runs_ask_iff.mp h
      exact ⟨span, after, rest, ⟨rfl, rfl⟩, rfl, hrest⟩
    · rintro ⟨_, _, rest, ⟨rfl, rfl⟩, rfl, hrest⟩
      exact Program.runs_ask_iff.mpr ⟨(), rest, rfl, hrest⟩
  | panicked payload =>
    simp only [reduceCtorEq, false_and, exists_false, false_or, Outcome.panicked.injEq,
      exists_eq_left']
    exact Program.runs_panic_iff

/-- A `get` is one request at most. -/
theorem runs_get {t : HttpTrace} {o : Outcome (Except Error (Versioned kind.Model))}
    (h : (get kind name).run.Runs t o) :
    (∃ e, o = .returned (.error e) ∧ ∀ e ∈ t, Quiet e) ∨
      ∃ path reply object resource, addressOf path = address kind name ∧
        t = [⟨.call ⟨.get, path, none⟩, reply⟩] ∧ reply.object = .ok object ∧
        kind.read object = .ok resource ∧ o = .returned (.ok ⟨resource, object.version⟩) := by
  rcases runs_objectRequest_bind_iff.mp h with
    ⟨e, -, rfl, rfl⟩ | ⟨path, reply, more, hpath, rfl, ⟨e, -, rfl, rfl⟩ | ⟨object, hobject, hrest⟩⟩
  · exact .inl ⟨_, rfl, by simp⟩
  · exact .inl ⟨_, rfl, by simpa using Quiet.get path reply⟩
  · obtain ⟨rfl, rfl⟩ := Program.runs_done_iff.mp hrest
    rw [snapshot]
    cases hread : kind.read object with
    | error e => exact .inl ⟨e, rfl, by simpa using Quiet.get path reply⟩
    | ok resource =>
      exact .inr ⟨path, reply, object, resource, addressOf_sentPath (.inl rfl) hpath, rfl, hobject,
        hread, rfl⟩

/-! ## Replacements -/

theorem replacement_eq_ok {desired : kind.Model} {expected : String} {live object : Object}
    (h : replacement kind name desired expected live = .ok object) :
    live.version = expected ∧
      ∃ written, kind.writeTo desired live = .ok written ∧ object = written.withVersion expected := by
  unfold replacement at h
  by_cases hversion : live.version = expected
  · rw [if_neg (not_not.mpr hversion)] at h
    cases hwritten : kind.writeTo desired live with
    | error e =>
      rw [hwritten] at h
      cases h
    | ok written =>
      rw [hwritten] at h
      exact ⟨hversion, written, rfl, (Except.ok.inj h).symm⟩
  · rw [if_pos hversion] at h
    cases h

/-- How an update ends with the reply to its replacement. -/
inductive Ends (kind : Kind) (reply : Reply) : Except Error (Versioned kind.Model) → Prop where
  | replaced {object : Object} {v : Versioned kind.Model} (hobject : reply.object = .ok object)
      (hv : snapshot kind object = .ok v) : Ends kind reply (.ok v)
  | refused {e : Error} (hconflict : e.isConflict = true) (hrefused : reply.Refuses) :
    Ends kind reply (.error e)
  | failed {e : Error} (hconflict : e.isConflict = false)
      (hexhausted : ∀ resource n attempts, e ≠ .conflictExhausted resource n attempts) :
    Ends kind reply (.error e)

/-- The reply to a replacement, read as an answer. -/
theorem ends_of_runs {query : String} {body : Option Json} {t : HttpTrace}
    {o : Outcome (Except Error (Versioned kind.Model))}
    (h : (orFail kind "replace" name
      (objectRequest .put kind.path name query body Object.read?) >>= fun object =>
        ofResult (snapshot kind object)).run.Runs t o) :
    (t = [] ∧ ∃ e, o = .returned (.error e)) ∨
      ∃ path reply answer, sentPath kind.path name query = .ok path ∧
        t = [⟨.call ⟨.put, path, body⟩, reply⟩] ∧ o = .returned answer ∧ Ends kind reply answer := by
  rcases runs_objectRequest_bind_iff.mp h with
    ⟨e, -, rfl, rfl⟩ | ⟨path, reply, more, hpath, rfl, ⟨e, he, rfl, rfl⟩ | ⟨object, hobject, hrest⟩⟩
  · exact .inl ⟨rfl, _, rfl⟩
  · refine .inr ⟨path, reply, _, hpath, rfl, rfl, ?_⟩
    cases hconflict : (e.toError kind.text name "replace").isConflict with
    | true => exact .refused hconflict (Reply.refuses_of_conflict he hconflict)
    | false => exact .failed hconflict (e.toError_ne_exhausted _ _ _)
  · obtain ⟨rfl, rfl⟩ := Program.runs_done_iff.mp hrest
    refine .inr ⟨path, reply, _, hpath, rfl, rfl, ?_⟩
    cases hv : snapshot kind object with
    | ok v => exact .replaced hobject hv
    | error e =>
      -- the write went through, but its answer does not read back as a resource
      rw [snapshot] at hv
      cases hread : kind.read object with
      | ok resource =>
        rw [hread] at hv
        cases hv
      | error e' =>
        rw [hread] at hv
        obtain rfl := Except.error.inj hv
        obtain ⟨message, resource, rfl⟩ := Kind.read_error hread
        exact .failed rfl (by simp)

/-- An update reads the object, and sends a replacement only if it found the expected version. -/
theorem runs_update {desired : kind.Model} {expected : String} {t : HttpTrace}
    {o : Outcome (Except Error (Versioned kind.Model))}
    (h : (update kind name desired expected).run.Runs t o) :
    (∃ e, o = .returned (.error e) ∧ ∀ e ∈ t, Quiet e) ∨
      ∃ path path' first live written reply answer, addressOf path = address kind name ∧
        addressOf path' = address kind name ∧ first.object = .ok live ∧ live.version = expected ∧
        kind.writeTo desired live = .ok written ∧
        t = [⟨.call ⟨.get, path, none⟩, first⟩,
          ⟨.call ⟨.put, path', some (written.withVersion expected).toJson⟩, reply⟩] ∧
        o = .returned answer ∧ Ends kind reply answer := by
  rcases runs_objectRequest_bind_iff.mp h with
    ⟨e, -, rfl, rfl⟩ | ⟨path, first, more, hpath, rfl, ⟨e, -, rfl, rfl⟩ | ⟨live, hlive, hrest⟩⟩
  · exact .inl ⟨_, rfl, by simp⟩
  · exact .inl ⟨_, rfl, by simpa using Quiet.get path first⟩
  rcases runs_ofResult_bind hrest with ⟨e, -, rfl, rfl⟩ | ⟨object, hobject, hrest⟩
  · exact .inl ⟨e, rfl, by simpa using Quiet.get path first⟩
  rcases ends_of_runs hrest with ⟨rfl, e, rfl⟩ | ⟨path', reply, answer, hpath', rfl, rfl, hends⟩
  · exact .inl ⟨e, rfl, by simpa using Quiet.get path first⟩
  · obtain ⟨hversion, written, hwritten, rfl⟩ := replacement_eq_ok hobject
    exact .inr ⟨path, path', first, live, written, reply, answer, addressOf_sentPath (.inl rfl) hpath,
      addressOf_sentPath (.inr rfl) hpath', hlive, hversion, hwritten, rfl, rfl, hends⟩

/-! ## Runs with given replies -/

section

variable {path : String} {reply : Reply} {object : Object}

theorem runs_get_of_object (hpath : sentPath kind.path name "" = .ok path)
    (hobject : reply.object = .ok object) :
    (answer kind (.get name)).run.Runs [⟨.call ⟨.get, path, none⟩, reply⟩]
      (.returned (snapshot kind object)) :=
  runs_objectRequest_bind_iff.mpr
    (.inr ⟨path, reply, [], hpath, rfl, .inr ⟨object, hobject, .done _⟩⟩)

/-- An update that reads another version ends there. -/
theorem runs_update_of_stale {desired : kind.Model} {expected : String}
    (hpath : sentPath kind.path name "" = .ok path) (hobject : reply.object = .ok object)
    (hversion : object.version ≠ expected) :
    (answer kind (.update name desired expected)).run.Runs [⟨.call ⟨.get, path, none⟩, reply⟩]
      (.returned (.error (staleUpdate kind name object.version expected))) := by
  refine runs_objectRequest_bind_iff.mpr
    (.inr ⟨path, reply, [], hpath, rfl, .inr ⟨object, hobject, ?_⟩⟩)
  rw [replacement, if_pos hversion]
  exact .done _

theorem runs_update_of_object {desired : kind.Model} {expected path' : String} {reply' : Reply}
    {written replaced : Object} (hpath : sentPath kind.path name "" = .ok path)
    (hobject : reply.object = .ok object) (hversion : object.version = expected)
    (hwritten : kind.writeTo desired object = .ok written)
    (hpath' : sentPath kind.path name "?" = .ok path') (hreplaced : reply'.object = .ok replaced) :
    (answer kind (.update name desired expected)).run.Runs
      [⟨.call ⟨.get, path, none⟩, reply⟩,
        ⟨.call ⟨.put, path', some (written.withVersion expected).toJson⟩, reply'⟩]
      (.returned (snapshot kind replaced)) := by
  refine runs_objectRequest_bind_iff.mpr
    (.inr ⟨path, reply, _, hpath, rfl, .inr ⟨object, hobject, ?_⟩⟩)
  rw [replacement, if_neg (not_not.mpr hversion), hwritten]
  exact runs_objectRequest_bind_iff.mpr
    (.inr ⟨path', reply', [], hpath', rfl, .inr ⟨replaced, hreplaced, .done _⟩⟩)

end

/-! ## Whole runs -/

/-- Two reads of an object and the replacement that follows from them: the first one is what the
mutation was applied to, and the second one, of the same version, is what is written to. -/
inductive Replaces (kind : Kind) (name : String) (mutation : kind.Model → Outcome kind.Model) :
    HttpEvent → HttpEvent → Request → Prop where
  | mk {path₁ path₂ path₃ : String} {first second : Reply} {seen live written : Object}
      {resource desired : kind.Model} (hpath₁ : addressOf path₁ = address kind name)
      (hpath₂ : addressOf path₂ = address kind name) (hpath₃ : addressOf path₃ = address kind name)
      (hseen : first.object = .ok seen) (hread : kind.read seen = .ok resource)
      (hdesired : mutation resource = .returned desired) (hlive : second.object = .ok live)
      (hversion : live.version = seen.version) (hwritten : kind.writeTo desired live = .ok written) :
    Replaces kind name mutation ⟨.call ⟨.get, path₁, none⟩, first⟩
      ⟨.call ⟨.get, path₂, none⟩, second⟩
      ⟨.put, path₃, some (written.withVersion seen.version).toJson⟩

/-- The questions of a run, and how it ends. -/
inductive Cycles (kind : Kind) (name : String) (mutation : kind.Model → Outcome kind.Model) :
    HttpTrace → Outcome (Except Error (Versioned kind.Model)) → Prop where
  | nil {o : Outcome (Except Error (Versioned kind.Model))} (h : ∀ v, o ≠ .returned (.ok v)) :
    Cycles kind name mutation [] o
  | quiet {e : HttpEvent} {t : HttpTrace} {o : Outcome (Except Error (Versioned kind.Model))}
      (he : Quiet e) (rest : Cycles kind name mutation t o) : Cycles kind name mutation (e :: t) o
  /-- A replacement is refused, and the run goes on or gives up. -/
  | refused {e₁ e₂ : HttpEvent} {request : Request} {reply : Reply} {t : HttpTrace}
      {o : Outcome (Except Error (Versioned kind.Model))}
      (h : Replaces kind name mutation e₁ e₂ request) (hrefused : reply.Refuses)
      (rest : Cycles kind name mutation t o) :
    Cycles kind name mutation (e₁ :: e₂ :: ⟨.call request, reply⟩ :: t) o
  /-- The reply to the last replacement is the new object. -/
  | replaced {e₁ e₂ : HttpEvent} {request : Request} {reply : Reply} {object : Object}
      {v : Versioned kind.Model} (h : Replaces kind name mutation e₁ e₂ request)
      (hobject : reply.object = .ok object) (hv : snapshot kind object = .ok v) :
    Cycles kind name mutation [e₁, e₂, ⟨.call request, reply⟩] (.returned (.ok v))
  /-- Nothing is known of what became of the last replacement. -/
  | failed {e₁ e₂ : HttpEvent} {request : Request} {reply : Reply} {e : Error}
      (h : Replaces kind name mutation e₁ e₂ request)
      (hexhausted : ∀ resource n attempts, e ≠ .conflictExhausted resource n attempts) :
    Cycles kind name mutation [e₁, e₂, ⟨.call request, reply⟩] (.returned (.error e))

variable {config : RetryConfig} {mutation : kind.Model → Outcome kind.Model}

theorem Cycles.prepend {quiet t : HttpTrace} {o : Outcome (Except Error (Versioned kind.Model))}
    (h : Cycles kind name mutation t o) (hquiet : ∀ e ∈ quiet, Quiet e) :
    Cycles kind name mutation (quiet ++ t) o := by
  induction quiet with
  | nil => exact h
  | cons e quiet ih =>
    obtain ⟨he, hquiet⟩ := List.forall_mem_cons.mp hquiet
    exact .quiet he (ih hquiet)

open Mutate

/-- What is left of a run after a refused update. -/
theorem cycles_after_refusal {left attempt : Nat} {backoff : Backoff} {e : Error} {t : HttpTrace}
    {o : Outcome (Except Error (Versioned kind.Model))}
    (ih : ∀ {attempt : Nat} {backoff : Backoff} {t : HttpTrace},
      (run kind (cycleFrom name config mutation left attempt backoff)).Runs t o →
        Cycles kind name mutation t o)
    (h : (run kind (afterUpdate name config mutation left attempt backoff (.error e))).Runs t o) :
    Cycles kind name mutation t o := by
  unfold afterUpdate at h
  dsimp only at h
  split at h
  · obtain ⟨rfl, rfl⟩ := Program.runs_done_iff.mp h
    exact .nil (by simp)
  split at h
  · obtain ⟨rfl, rfl⟩ := Program.runs_done_iff.mp h
    exact .nil (by simp)
  · obtain ⟨factor, _, rfl, ⟨span, after, rest, -, rfl, hrest⟩ | ⟨payload, -, rfl, rfl⟩⟩ :=
      runs_pause_bind_iff.mp h
    · exact .quiet (.jitter factor) (.quiet (.sleep span) (ih hrest))
    · exact .quiet (.jitter factor) (.nil (by simp))

/-- What is left of a run after the mutation was applied to what was read. -/
theorem cycles_after_mutation {left attempt : Nat} {backoff : Backoff} {path : String}
    {reply : Reply} {seen : Object} {resource desired : kind.Model} {t : HttpTrace}
    {o : Outcome (Except Error (Versioned kind.Model))}
    (ih : ∀ {attempt : Nat} {backoff : Backoff} {t : HttpTrace},
      (run kind (cycleFrom name config mutation left attempt backoff)).Runs t o →
        Cycles kind name mutation t o)
    (hpath : addressOf path = address kind name) (hseen : reply.object = .ok seen)
    (hread : kind.read seen = .ok resource) (hdesired : mutation resource = .returned desired)
    (h : (run kind ((StoreCall.update name desired seen.version).run.bind
      (afterUpdate name config mutation left attempt backoff))).Runs t o) :
    Cycles kind name mutation (⟨.call ⟨.get, path, none⟩, reply⟩ :: t) o := by
  rcases runs_call_bind_iff.mp h with ⟨t₁, r, t₂, rfl, hupdate, hrest⟩ | ⟨payload, hupdate, -⟩
  · rcases runs_update hupdate with ⟨e, heq, hquiet⟩ |
      ⟨path₂, path₃, second, live, written, reply₃, _, hpath₂, hpath₃, hlive, hversion, hwritten, rfl,
        ⟨rfl⟩, hends⟩
    · obtain rfl := Outcome.returned.inj heq
      exact .quiet (.get path reply) ((cycles_after_refusal ih hrest).prepend hquiet)
    · have hreplaces : Replaces kind name mutation _ _ _ :=
        .mk hpath hpath₂ hpath₃ hseen hread hdesired hlive hversion hwritten
      cases hends with
      | replaced hobject hv =>
        obtain ⟨rfl, rfl⟩ := Program.runs_done_iff.mp hrest
        exact .replaced hreplaces hobject hv
      | refused hconflict hrefused =>
        exact .refused hreplaces hrefused (cycles_after_refusal ih hrest)
      | failed hconflict hexhausted =>
        rw [afterUpdate, hconflict] at hrest
        obtain ⟨rfl, rfl⟩ := Program.runs_done_iff.mp hrest
        exact .failed hreplaces hexhausted
  · rcases runs_update hupdate with ⟨e, heq, -⟩ | ⟨_, _, _, _, _, _, _, _, _, _, _, _, _, heq, -⟩
    · cases heq
    · cases heq

/-- Whatever the API server replies, a run consists of cycles. -/
theorem cycles_of_runs {left attempt : Nat} {backoff : Backoff} {t : HttpTrace}
    {o : Outcome (Except Error (Versioned kind.Model))}
    (h : (run kind (cycleFrom name config mutation left attempt backoff)).Runs t o) :
    Cycles kind name mutation t o := by
  induction left generalizing attempt backoff t with
  | zero =>
    obtain ⟨rfl, rfl⟩ := Program.runs_panic_iff.mp h
    exact .nil (by simp)
  | succ left ih =>
    rw [cycleFrom_succ] at h
    rcases runs_call_bind_iff.mp h with ⟨t₁, r, t₂, rfl, hget, hrest⟩ | ⟨payload, hget, -⟩
    · rcases runs_get hget with
        ⟨e, heq, hquiet⟩ | ⟨path, reply, seen, resource, hpath, rfl, hseen, hread, heq⟩
      · obtain rfl := Outcome.returned.inj heq
        obtain ⟨rfl, rfl⟩ := Program.runs_done_iff.mp hrest
        exact .prepend (.nil (by simp)) hquiet
      · obtain rfl := Outcome.returned.inj heq
        rw [afterRead] at hrest
        cases hdesired : mutation resource with
        | panicked payload =>
          rw [hdesired] at hrest
          obtain ⟨rfl, rfl⟩ := Program.runs_panic_iff.mp hrest
          exact .quiet (.get path reply) (.nil (by simp))
        | returned desired =>
          rw [hdesired] at hrest
          exact cycles_after_mutation ih hpath hseen hread hdesired hrest
    · rcases runs_get hget with ⟨e, heq, -⟩ | ⟨_, _, _, _, _, _, _, _, heq⟩
      · cases heq
      · cases heq

/-! ## No replacement without its reads -/

section

variable {path : String} {body : Option Json} {reply : Reply} {before after t : HttpTrace}
  {o : Outcome (Except Error (Versioned kind.Model))}

theorem not_quiet_put : ¬ Quiet ⟨.call ⟨.put, path, body⟩, reply⟩ := nofun

/-- A request that stands somewhere in a cycle and what follows it is the replacement of that cycle,
or stands in what follows. -/
theorem Replaces.split {e₁ e₂ : HttpEvent} {request : Request} {last : Reply}
    (h : Replaces kind name mutation e₁ e₂ request)
    (ht : e₁ :: e₂ :: ⟨.call request, last⟩ :: t =
      before ++ ⟨.call ⟨.put, path, body⟩, reply⟩ :: after) :
    before = [e₁, e₂] ∧ request = ⟨.put, path, body⟩ ∨
      ∃ more, before = e₁ :: e₂ :: ⟨.call request, last⟩ :: more ∧
        t = more ++ ⟨.call ⟨.put, path, body⟩, reply⟩ :: after := by
  obtain ⟨⟩ := h
  rcases before with _ | ⟨a, _ | ⟨b, _ | ⟨c, more⟩⟩⟩
  · cases ht
  · cases ht
  · cases ht
    exact .inl ⟨rfl, rfl⟩
  · cases ht
    exact .inr ⟨more, rfl, rfl⟩

theorem Cycles.replaces_of_put (h : Cycles kind name mutation t o)
    (ht : t = before ++ ⟨.call ⟨.put, path, body⟩, reply⟩ :: after) :
    ∃ earlier e₁ e₂, before = earlier ++ [e₁, e₂] ∧
      Replaces kind name mutation e₁ e₂ ⟨.put, path, body⟩ := by
  induction h generalizing before with
  | nil => simp at ht
  | @quiet e t o he rest ih =>
    cases before with
    | nil =>
      cases ht
      exact absurd he not_quiet_put
    | cons b before =>
      obtain ⟨rfl, hmore⟩ := List.cons.inj ht
      obtain ⟨earlier, e₁, e₂, rfl, hreplaces⟩ := ih hmore
      exact ⟨_ :: earlier, e₁, e₂, rfl, hreplaces⟩
  | @refused e₁ e₂ request last t o hreplaces _ _ ih =>
    rcases hreplaces.split ht with ⟨rfl, rfl⟩ | ⟨more, rfl, hmore⟩
    · exact ⟨[], e₁, e₂, rfl, hreplaces⟩
    · obtain ⟨earlier, e₁', e₂', rfl, hreplaces'⟩ := ih hmore
      exact ⟨e₁ :: e₂ :: _ :: earlier, e₁', e₂', rfl, hreplaces'⟩
  | replaced hreplaces =>
    rcases hreplaces.split ht with ⟨rfl, rfl⟩ | ⟨more, rfl, hmore⟩
    · exact ⟨[], _, _, rfl, hreplaces⟩
    · simp at hmore
  | failed hreplaces =>
    rcases hreplaces.split ht with ⟨rfl, rfl⟩ | ⟨more, rfl, hmore⟩
    · exact ⟨[], _, _, rfl, hreplaces⟩
    · simp at hmore

end

end ApiStore

end BuildTrial.Api
