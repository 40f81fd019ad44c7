import BuildTrial.Proofs.Api.NormalForm
import BuildTrial.Proofs.Api.Requests

/-!
# An API server and those who use it

What is assumed of an API server: it stores objects under addresses, gives every commit a version
that it has never given out before, hands out what is stored, and replaces an object only against the
version that is stored. It may refuse any request, and any reply may be lost, that of a commit
included. Clients send requests, one at a time each, and others write and remove objects in between;
a `History` is all of that in one order, so a statement about every history holds however the
requests of several clients fall between each other.

A version stands for one object for ever. That is what `Cluster.Backs` says of an object that was
read: whatever is stored with its version is that object, and no commit takes this away.
-/

namespace BuildTrial.Api

/-- What is stored, and the versions that were ever given out. -/
structure Cluster where
  objects : String → Option Object
  versions : List String

/-- A committed write: what was stored under the address just before it and just after. -/
structure Commit where
  address : String
  before : Option Object
  after : Option Object

namespace Cluster

/-- Store an object with a version of its own. -/
def store (c : Cluster) (address : String) (object : Object) (version : String) : Cluster :=
  { objects := fun a => if a = address then some (object.withVersion version) else c.objects a
    versions := version :: c.versions }

theorem objects_store (c : Cluster) (address : String) (object : Object) (version : String) :
    (c.store address object version).objects address = some (object.withVersion version) := if_pos rfl

def remove (c : Cluster) (address : String) : Cluster :=
  { c with objects := fun a => if a = address then none else c.objects a }

/-- How a request may be served, and what it commits. -/
inductive Serves (c : Cluster) : Request → Reply → Option Commit → Cluster → Prop where
  | found {path : String} {object : Object} {reply : Reply}
      (hobject : c.objects (addressOf path) = some object) (hreply : reply.object = .ok object) :
    Serves c ⟨.get, path, none⟩ reply none c
  | refused (request : Request) {reply : Reply} (hrefused : reply.Refuses) :
    Serves c request reply none c
  | failed (request : Request) (reason : String) : Serves c request (.failed reason) none c
  /-- The version that was sent is the one that is stored. The reply is the new object, or gets
  lost. -/
  | replaced {path version : String} {before sent : Object} {reply : Reply}
      (hbefore : c.objects (addressOf path) = some before) (hversion : sent.version = before.version)
      (normal : sent.Normal) (hnew : version ∉ c.versions)
      (hreply : reply.object = .ok (sent.withVersion version) ∨ ∃ reason, reply = .failed reason) :
    Serves c ⟨.put, path, some sent.toJson⟩ reply
      (some ⟨addressOf path, some before, some (sent.withVersion version)⟩)
      (c.store (addressOf path) sent version)

end Cluster

/-- What happens at an API server. -/
inductive Happening where
  /-- A client asks for something, or for the time or a chance. -/
  | asked (client : Nat) (event : HttpEvent) (commit : Option Commit)
  /-- Someone else commits a write. -/
  | elsewhere (commit : Commit)

namespace Cluster

inductive Step : Cluster → Happening → Cluster → Prop where
  | request (i : Nat) {c c' : Cluster} {request : Request} {reply : Reply} {commit : Option Commit}
      (serves : c.Serves request reply commit c') :
    Step c (.asked i ⟨.call request, reply⟩ commit) c'
  | time (i : Nat) (c : Cluster) {query : httpInterface.timed.Query}
      (hquery : ∀ request, query ≠ .call request) (reply : httpInterface.timed.Reply query) :
    Step c (.asked i ⟨query, reply⟩ none) c
  | write {c : Cluster} (address : String) {object : Object} {version : String}
      (normal : object.Normal) (hnew : version ∉ c.versions) :
    Step c (.elsewhere ⟨address, c.objects address, some (object.withVersion version)⟩)
      (c.store address object version)
  | remove (c : Cluster) (address : String) :
    Step c (.elsewhere ⟨address, c.objects address, none⟩) (c.remove address)

/-- Any number of happenings in their order. -/
inductive History : Cluster → List Happening → Cluster → Prop where
  | nil (c : Cluster) : History c [] c
  | cons {c c' c'' : Cluster} {happening : Happening} {more : List Happening}
      (step : Step c happening c') (rest : History c' more c'') :
    History c (happening :: more) c''

end Cluster

/-- What a client asked, in order, with the replies. -/
def askedBy (i : Nat) (history : List Happening) : HttpTrace :=
  history.filterMap fun
    | .asked j event _ => if j = i then some event else none
    | .elsewhere _ => none

/-- What a client committed, in order. -/
def commitsOf (i : Nat) (history : List Happening) : List Commit :=
  history.filterMap fun
    | .asked j _ commit => if j = i then commit else none
    | .elsewhere _ => none

theorem commitsOf_eq_nil {i : Nat} {history : List Happening} (h : askedBy i history = []) :
    commitsOf i history = [] := by
  refine List.filterMap_eq_nil_iff.mpr fun happening hmem => ?_
  have hnone := List.filterMap_eq_nil_iff.mp h happening hmem
  cases happening with
  | elsewhere => rfl
  | asked j event commit =>
    dsimp only at hnone ⊢
    split at hnone
    · cases hnone
    · rename_i hj
      exact if_neg hj

namespace Cluster

variable {c c' : Cluster} {happening : Happening} {history : List Happening} {i : Nat}

/-! ## What one step does -/

namespace Serves

variable {path : String} {body : Option Json} {reply : Reply} {commit : Option Commit}
  {request : Request} {object : Object}

theorem get (h : c.Serves ⟨.get, path, body⟩ reply commit c') : commit = none ∧ c' = c := by
  cases h with
  | found => exact ⟨rfl, rfl⟩
  | refused => exact ⟨rfl, rfl⟩
  | failed => exact ⟨rfl, rfl⟩

/-- A read that succeeds finds what is stored. -/
theorem objects_of_get (h : c.Serves ⟨.get, path, body⟩ reply commit c')
    (hobject : reply.object = .ok object) : c.objects (addressOf path) = some object := by
  cases h with
  | found hstored hreply =>
    obtain rfl := Except.ok.inj (hreply.symm.trans hobject)
    exact hstored
  | refused _ hrefused => exact absurd hobject (hrefused.object_ne_ok object)
  | failed => cases hobject

theorem refuses (h : c.Serves request reply commit c') (hrefused : reply.Refuses) :
    commit = none := by
  cases h with
  | found => rfl
  | refused => rfl
  | failed => rfl
  | replaced _ _ _ _ hreply =>
    rcases hreply with hobject | ⟨reason, rfl⟩
    · exact absurd hobject (hrefused.object_ne_ok _)
    · exact hrefused.elim

/-- A replacement that succeeds is committed against the version that is stored. -/
theorem put (h : c.Serves ⟨.put, path, body⟩ reply commit c') (hobject : reply.object = .ok object) :
    ∃ (before sent : Object) (version : String), c.objects (addressOf path) = some before ∧
      sent.version = before.version ∧ sent.Normal ∧ version ∉ c.versions ∧
      body = some sent.toJson ∧ object = sent.withVersion version ∧
      commit = some ⟨addressOf path, some before, some object⟩ := by
  cases h with
  | refused _ hrefused => exact absurd hobject (hrefused.object_ne_ok object)
  | failed => cases hobject
  | replaced hbefore hversion normal hnew hreply =>
    rcases hreply with hreply | ⟨reason, rfl⟩
    · obtain rfl := Except.ok.inj (hreply.symm.trans hobject)
      exact ⟨_, _, _, hbefore, hversion, normal, hnew, rfl, rfl, rfl⟩
    · cases hobject

end Serves

/-- A step leaves everything as it is, or stores one object with a new version, or removes one. -/
theorem Step.cases (h : Step c happening c') :
    c' = c ∨ (∃ address object version, object.Normal ∧ version ∉ c.versions ∧
      c' = c.store address object version) ∨ ∃ address, c' = c.remove address := by
  cases h with
  | request i serves =>
    cases serves with
    | found => exact .inl rfl
    | refused => exact .inl rfl
    | failed => exact .inl rfl
    | replaced _ _ normal hnew => exact .inr (.inl ⟨_, _, _, normal, hnew, rfl⟩)
  | time => exact .inl rfl
  | write address normal hnew => exact .inr (.inl ⟨_, _, _, normal, hnew, rfl⟩)
  | remove address => exact .inr (.inr ⟨_, rfl⟩)

/-! ## What holds throughout -/

/-- Every object is in normal form, with a version that was given out. -/
def Sound (c : Cluster) : Prop :=
  ∀ address object, c.objects address = some object →
    object.Normal ∧ object.version ∈ c.versions

/-- Whatever is stored with the version of an object is that object. -/
def Backs (c : Cluster) (address : String) (object : Object) : Prop :=
  object.version ∈ c.versions ∧
    ∀ stored, c.objects address = some stored → stored.version = object.version → stored = object

theorem Step.sound (h : Step c happening c') (sound : c.Sound) : c'.Sound := by
  rcases h.cases with rfl | ⟨address, object, version, normal, -, rfl⟩ | ⟨address, rfl⟩
  · exact sound
  · intro a stored hstored
    simp only [store] at hstored ⊢
    split at hstored
    · obtain rfl := Option.some.inj hstored
      exact ⟨normal.withVersion version, List.mem_cons_self⟩
    · exact (sound a stored hstored).imp_right (List.mem_cons_of_mem version)
  · intro a stored hstored
    simp only [Cluster.remove] at hstored
    split at hstored
    · cases hstored
    · exact sound a stored hstored

theorem Sound.backs (sound : c.Sound) {address : String} {object : Object}
    (h : c.objects address = some object) : c.Backs address object :=
  ⟨(sound address object h).2, fun _ hstored _ => Option.some.inj (hstored.symm.trans h)⟩

theorem Step.backs (h : Step c happening c') {address : String} {object : Object}
    (backs : c.Backs address object) : c'.Backs address object := by
  obtain ⟨hversion, hsame⟩ := backs
  rcases h.cases with rfl | ⟨address', object', version, -, hnew, rfl⟩ | ⟨address', rfl⟩
  · exact ⟨hversion, hsame⟩
  · refine ⟨List.mem_cons_of_mem version hversion, fun stored hstored heq => ?_⟩
    simp only [store] at hstored
    split at hstored
    · -- a new version is not the one of an object that was read before
      obtain rfl := Option.some.inj hstored
      rw [Object.version_withVersion] at heq
      exact absurd (heq ▸ hversion) hnew
    · exact hsame stored hstored heq
  · refine ⟨hversion, fun stored hstored heq => ?_⟩
    simp only [Cluster.remove] at hstored
    split at hstored
    · cases hstored
    · exact hsame stored hstored heq

namespace History

theorem sound (h : History c history c') (sound : c.Sound) : c'.Sound := by
  induction h with
  | nil => exact sound
  | cons step _ ih => exact ih (step.sound sound)

theorem backs (h : History c history c') {address : String} {object : Object}
    (backs : c.Backs address object) : c'.Backs address object := by
  induction h with
  | nil => exact backs
  | cons step _ ih => exact ih (step.backs backs)

/-- The first thing that a client asks, between what happens before it and after it. -/
theorem split {e : HttpEvent} {t : HttpTrace} (h : History c history c')
    (ht : askedBy i history = e :: t) :
    ∃ commit before after c₁ c₂, History c before c₁ ∧ Step c₁ (.asked i e commit) c₂ ∧
      History c₂ after c' ∧ askedBy i after = t ∧
      commitsOf i history = commit.toList ++ commitsOf i after := by
  induction h with
  | nil => cases ht
  | @cons c c' c'' happening more step rest ih =>
    cases happening with
    | elsewhere commit =>
      obtain ⟨commit', before, after, c₁, c₂, hbefore, hstep, hafter, hasked, hcommits⟩ := ih ht
      exact ⟨commit', _, after, c₁, c₂, .cons step hbefore, hstep, hafter, hasked, hcommits⟩
    | asked j event commit =>
      rw [askedBy, List.filterMap_cons] at ht
      rw [commitsOf, List.filterMap_cons]
      by_cases hj : j = i
      · subst hj
        simp only [if_true] at ht ⊢
        obtain ⟨rfl, hasked⟩ := List.cons.inj ht
        refine ⟨commit, [], more, _, _, .nil _, step, rest, hasked, ?_⟩
        cases commit <;> rfl
      · simp only [if_neg hj] at ht ⊢
        obtain ⟨commit', before, after, c₁, c₂, hbefore, hstep, hafter, hasked, hcommits⟩ := ih ht
        exact ⟨commit', _, after, c₁, c₂, .cons step hbefore, hstep, hafter, hasked, hcommits⟩

end History

end Cluster

end BuildTrial.Api
