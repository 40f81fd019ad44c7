import BuildTrial.Api.Store
import BuildTrial.Proofs.Program.Trace
import Mathlib.Data.List.TakeWhile

/-!
# The requests behind a call on a store

What a call asks of the API server, written as one program for each call: a `get` is one request,
and an `update` is two of them at most, the second of which is sent only if the first one read the
version that was expected (`ApiStore.update_eq`). Both are about one address, whatever the name of
the object looks like (`addressOf_sentPath`).
-/

namespace BuildTrial.Api

/-- A question to an API server, or one about time and chance, with its reply. -/
abbrev HttpEvent : Type := Event httpInterface.timed

abbrev HttpTrace : Type := Trace httpInterface.timed

/-! ## Addresses -/

/-- The part of a target that says which object it is about. -/
def addressOf (target : String) : String :=
  String.ofList ((target.toList.takeWhile (· ≠ '#')).takeWhile (· ≠ '?'))

/-- An empty query does not change what a target is about. -/
theorem addressOf_append_query (target : String) : addressOf (target ++ "?") = addressOf target := by
  have hquery : ∀ cs : List Char, ((cs ++ ['?']).takeWhile (· ≠ '#')).takeWhile (· ≠ '?') =
      (cs.takeWhile (· ≠ '#')).takeWhile (· ≠ '?') := by
    intro cs
    induction cs with
    | nil => rfl
    | cons c cs ih =>
      rw [List.cons_append, List.takeWhile_cons, List.takeWhile_cons]
      split
      · rw [List.takeWhile_cons, List.takeWhile_cons, ih]
      · rfl
  rw [addressOf, String.toList_append]
  exact congrArg String.ofList (hquery _)

/-- A target is read up to the anchor. -/
theorem Uri.eq_of_readTarget {cs : List Char} {target : String} (h : readTarget cs = .ok target) :
    target = String.ofList (cs.takeWhile (· ≠ '#')) := by
  simp only [readTarget] at h
  split at h
  · exact (Except.ok.inj h).symm
  · cases h

/-- What is sent of a target that begins with a slash is about the same object. -/
theorem addressOf_sentTarget {target path : String} (hroot : target.toList.head? = some '/')
    (h : sentTarget target = .ok path) : addressOf path = addressOf target := by
  obtain ⟨rest, hrest⟩ : ∃ rest, target.toList = '/' :: rest := by
    cases hlist : target.toList with
    | nil => simp [hlist] at hroot
    | cons c rest => exact ⟨rest, by simpa [hlist] using hroot⟩
  -- behind a slash the target is read as a path, however short it is
  have hparse : Uri.parse target = if Uri.limit < target.utf8ByteSize then .error .tooLong
      else (Uri.readTarget target.toList).map fun target => { target } := by
    rw [Uri.parse, hrest]
    cases rest <;> rfl
  rw [sentTarget, hparse] at h
  split at h
  · cases h
  · cases hread : Uri.readTarget target.toList with
    | error fault =>
      rw [hread] at h
      cases h
    | ok sent =>
      rw [hread] at h
      obtain rfl := Except.ok.inj h
      rw [Uri.eq_of_readTarget hread]
      simp [Uri.text, addressOf, List.takeWhile_idem]

/-! ## Replies -/

/-- What a request makes of its reply. -/
def Reply.document {α : Type} (read : Reading α) (reply : Reply) : Except ClientError α := do
  let body ← reply.body
  match (Written.ofText? body).bind (read Json.maxDepth) with
  | some answer => .ok answer
  | none => .error .unreadable

/-- The object in a reply. -/
def Reply.object (reply : Reply) : Except ClientError Object := reply.document Object.read?

/-- Whether a reply is a refusal. -/
def Reply.Refuses : Reply → Prop
  | .answered status _ => 400 ≤ status ∧ status < 600
  | _ => False

namespace Reply

variable {α : Type} {read : Reading α} {reply : Reply}

theorem Refuses.object_ne_ok (h : reply.Refuses) (object : Object) : reply.object ≠ .ok object := by
  cases reply with
  | answered status body =>
    have hstatus : (400 ≤ status && status < 600) = true := by
      simpa only [Refuses, Bool.and_eq_true, decide_eq_true_eq] using h
    rw [Reply.object, Reply.document, Reply.body, if_pos hstatus]
    nofun
  | upgraded frames => exact h.elim
  | failed reason => exact h.elim

/-- Only a refusal is a lost race. -/
theorem refuses_of_conflict {e : ClientError} {kindName name verb : String}
    (h : reply.document read = .error e) (hconflict : (e.toError kindName name verb).isConflict) :
    reply.Refuses := by
  cases hbody : reply.body with
  | ok body =>
    -- a reply that is no refusal is at worst unreadable
    rw [Reply.document, hbody] at h
    simp only [bind, Except.bind] at h
    split at h
    · cases h
    · obtain rfl := Except.error.inj h
      cases hconflict
  | error e' =>
    rw [Reply.document, hbody] at h
    obtain rfl := Except.error.inj h
    cases reply with
    | answered status body =>
      rw [Reply.body] at hbody
      split at hbody
      · rename_i hstatus
        simpa only [Refuses, Bool.and_eq_true, decide_eq_true_eq] using hstatus
      · cases hbody
    | upgraded frames => cases hbody
    | failed reason =>
      obtain rfl := Except.error.inj hbody
      cases hconflict

end Reply

/-! ## Requests as programs -/

/-- A request is sent, unless its target is none, and its reply is read. -/
theorem request_eq {α : Type} (method : Method) (target : String) (body : Option Json)
    (read : Reading α) :
    request method target body read = match sentTarget target with
      | .error fault => .done (.error (.unsendable fault))
      | .ok path => .ask (.call ⟨method, path, body⟩) fun reply => .done (reply.document read) := by
  unfold request send
  cases sentTarget target with
  | error fault => rfl
  | ok path => rfl

namespace ApiStore

variable {kind : Kind} {name : String}

/-- Where a request about an object goes, or why it cannot be sent. -/
def sentPath (collection name query : String) : Except ClientError String :=
  match objectTarget collection name with
  | .error e => .error e
  | .ok target => (sentTarget (target ++ query)).mapError .unsendable

/-- The address of an object. -/
def address (kind : Kind) (name : String) : String := addressOf s!"{kind.path}/{name}"

theorem head?_path (type : ServedType) (scope : Option String) :
    (type.path scope).toList.head? = some '/' := by
  simp [ServedType.path, show toString "/" = "/" from rfl]

theorem head?_objectTarget (kind : Kind) (name query : String) :
    (s!"{kind.path}/{name}" ++ query).toList.head? = some '/' := by
  have hpath : kind.path.toList.head? = some '/' := head?_path kind.servedType kind.scope
  change (kind.path ++ "/" ++ name ++ query).toList.head? = some '/'
  simp only [String.toList_append, List.append_assoc, List.head?_append, hpath, Option.some_or]

theorem addressOf_sentPath {query path : String} (hquery : query = "" ∨ query = "?")
    (h : sentPath kind.path name query = .ok path) : addressOf path = address kind name := by
  have htarget : addressOf (s!"{kind.path}/{name}" ++ query) = address kind name := by
    rcases hquery with rfl | rfl
    · rw [String.append_empty, address]
    · rw [addressOf_append_query, address]
  unfold sentPath objectTarget at h
  split at h
  · cases h
  · rename_i target hok
    split at hok
    · cases hok
    · obtain rfl := Except.ok.inj hok
      cases hsent : sentTarget (s!"{kind.path}/{name}" ++ query) with
      | error fault =>
        rw [hsent] at h
        cases h
      | ok sent =>
        rw [hsent] at h
        obtain rfl := Except.ok.inj h
        exact (addressOf_sentTarget (head?_objectTarget kind name query) hsent).trans htarget

theorem objectRequest_eq {α : Type} (method : Method) (collection name query : String)
    (body : Option Json) (read : Reading α) :
    objectRequest method collection name query body read =
      match sentPath collection name query with
      | .error e => .done (.error e)
      | .ok path => .ask (.call ⟨method, path, body⟩) fun reply => .done (reply.document read) := by
  unfold objectRequest sentPath
  cases objectTarget collection name with
  | error e => rfl
  | ok target =>
    dsimp only
    rw [request_eq]
    cases sentTarget (target ++ query) <;> rfl

/-- A request about an object cannot be sent, or it is, and then it fails or goes on with the object
in the reply. -/
theorem runs_objectRequest_bind_iff {α : Type} {method : Method} {collection query verb : String}
    {body : Option Json} {f : Object → HttpTask α} {t : HttpTrace} {o : Outcome (Except Error α)} :
    (orFail kind verb name (objectRequest method collection name query body Object.read?) >>=
      f).run.Runs t o ↔
    (∃ e, sentPath collection name query = .error e ∧ t = [] ∧
        o = .returned (.error (e.toError kind.text name verb))) ∨
      ∃ path reply more, sentPath collection name query = .ok path ∧
        t = ⟨.call ⟨method, path, body⟩, reply⟩ :: more ∧
        ((∃ e, reply.object = .error e ∧ more = [] ∧
            o = .returned (.error (e.toError kind.text name verb))) ∨
          ∃ object, reply.object = .ok object ∧ (f object).run.Runs more o) := by
  change (((objectRequest method collection name query body Object.read?).bind _).bind
    (ExceptT.bindCont f)).Runs t o ↔ _
  rw [objectRequest_eq]
  cases hpath : sentPath collection name query with
  | error e =>
    simp only [reduceCtorEq, false_and, exists_false, or_false, Except.error.injEq,
      exists_eq_left']
    exact Program.runs_done_iff
  | ok path =>
    simp only [reduceCtorEq, false_and, exists_false, false_or, Except.ok.injEq, exists_and_left,
      exists_eq_left']
    refine Program.runs_ask_iff.trans (exists_congr fun reply => exists_congr fun more =>
      and_congr_right fun _ => ?_)
    change (ExceptT.bindCont f (reply.object.mapError _)).Runs more o ↔ _
    cases hobject : reply.object with
    | error e =>
      simp only [reduceCtorEq, false_and, exists_false, or_false, Except.error.injEq,
        exists_eq_left']
      exact Program.runs_done_iff
    | ok object =>
      simp only [reduceCtorEq, false_and, exists_false, false_or, Except.ok.injEq, exists_eq_left']
      exact Iff.rfl

theorem runs_ofResult_bind {α β : Type} {r : Except Error α} {f : α → HttpTask β} {t : HttpTrace}
    {o : Outcome (Except Error β)} (h : (ofResult r >>= f).run.Runs t o) :
    (∃ e, r = .error e ∧ t = [] ∧ o = .returned (.error e)) ∨
      ∃ a, r = .ok a ∧ (f a).run.Runs t o := by
  change ((Program.done r).bind (ExceptT.bindCont f)).Runs t o at h
  cases r with
  | error e =>
    obtain ⟨rfl, rfl⟩ := Program.runs_done_iff.mp h
    exact .inl ⟨e, rfl, rfl, rfl⟩
  | ok a => exact .inr ⟨a, rfl, h⟩

end ApiStore

end BuildTrial.Api
