import BuildTrial.Proofs.Rehearsal.Names
import BuildTrial.Proofs.Store.Views

/-!
# The nodes of a cluster seen through a view

What a run does to the nodes, as far as a view shows it, can be told from its trace alone: each call
that changed a node says what it made of it (`Event.shifts`), and each read that came back shows what
was there (`Event.Shows`). This is `viewed_of_path`, for every cluster whose reconciler leaves alone
what is viewed.
-/

namespace BuildTrial

variable {β : Type}

namespace Event

/-- What is viewed of the nodes after the event, from what was viewed before. -/
def shifts (view : Node → β) : PlaneEvent → (String → Option β) → String → Option β
  | ⟨.call (.store .node (.create node)), .returned (.ok _)⟩, nodes =>
    Function.update nodes (Resource.name (T := Node) node) (some (view node))
  | ⟨.call (.store .node (.update name desired _)), .returned (.ok _)⟩, nodes =>
    Function.update nodes name (some (view desired))
  | ⟨.call (.store .node (.delete name)), .returned (.ok _)⟩, nodes =>
    Function.update nodes name none
  | _, nodes => nodes

/-- A read of nodes shows what is to be viewed of them. -/
def Shows (view : Node → β) (nodes : String → Option β) : PlaneEvent → Prop
  | ⟨.call (.store .node (.get name)), .returned (.ok v)⟩ => nodes name = some (view v.object)
  | ⟨.call (.store .node .list), .returned (.ok listed)⟩ =>
    ∀ v ∈ listed, ∃ n, nodes n = some (view v.object)
  | _ => True

/-- What a successful update of a node updated. -/
def updatedNode? : PlaneEvent → Option String
  | ⟨.call (.store .node (.update name _ _)), .returned (.ok _)⟩ => some name
  | _ => none

/-- The event creates and deletes no node. -/
def SameNodes (e : PlaneEvent) : Prop :=
  (∀ n, e.created? ≠ some (.node, n)) ∧ ∀ n, e.deleted? ≠ some (.node, n)

theorem shifts_of_still {e : PlaneEvent} (hupdate : e.updatedNode? = none) (hsame : e.SameNodes)
    (view : Node → β) (nodes : String → Option β) : e.shifts view nodes = nodes := by
  unfold shifts
  split
  · exact absurd rfl (hsame.1 _)
  · cases hupdate
  · exact absurd rfl (hsame.2 _)
  · rfl

end Event

/-- What is viewed of the nodes after the events of a trace. -/
def viewedAfter (view : Node → β) (t : PlaneTrace) (nodes : String → Option β) :
    String → Option β :=
  t.foldl (fun nodes e => Event.shifts view e nodes) nodes

/-- All reads of a trace show what is to be viewed when their turn comes. -/
def AllShow (view : Node → β) (t : PlaneTrace) (nodes : String → Option β) : Prop :=
  ∀ s e u, t = s ++ e :: u → Event.Shows view (viewedAfter view s nodes) e

section

variable {view : Node → β} {nodes : String → Option β} {t u : PlaneTrace}

theorem viewedAfter_append :
    viewedAfter view (t ++ u) nodes = viewedAfter view u (viewedAfter view t nodes) :=
  List.foldl_append

theorem viewedAfter_of_still (hupdate : ∀ e ∈ t, Event.updatedNode? e = none)
    (hsame : ∀ e ∈ t, Event.SameNodes e) (view : Node → β) (nodes : String → Option β) :
    viewedAfter view t nodes = nodes := by
  induction t with
  | nil => rfl
  | cons e t ih =>
    obtain ⟨hupdate, hupdates⟩ := List.forall_mem_cons.mp hupdate
    obtain ⟨hsame, hsames⟩ := List.forall_mem_cons.mp hsame
    show viewedAfter view t (Event.shifts view e nodes) = nodes
    rw [Event.shifts_of_still hupdate hsame]
    exact ih hupdates hsames

theorem AllShow.cons {e : PlaneEvent} (he : Event.Shows view nodes e)
    (h : AllShow view t (Event.shifts view e nodes)) : AllShow view (e :: t) nodes := by
  rintro (_ | ⟨e', s⟩) e'' u heq
  · obtain ⟨rfl, -⟩ := List.cons.inj heq
    exact he
  · obtain ⟨rfl, rfl⟩ := List.cons.inj heq
    exact h s e'' u rfl

theorem AllShow.left (h : AllShow view (t ++ u) nodes) : AllShow view t nodes := by
  rintro s e u' rfl
  exact h s e (u' ++ u) (by simp)

theorem AllShow.right (h : AllShow view (t ++ u) nodes) :
    AllShow view u (viewedAfter view t nodes) := by
  rintro s e u' rfl
  rw [← viewedAfter_append]
  exact h (t ++ s) e u' (by simp)

end

namespace Rehearsal.Cluster

open MemoryStore

variable {ρ : Kind → Type} {ε : Type} {view : Node → β}

/-- How the reply to a call goes together with what is viewed of the nodes before and after it. -/
structure ViewChange (view : Node → β) (c c' : Cluster ρ ε) (e : PlaneEvent) : Prop where
  keeps : c'.nodes.memory.Keeps view
  shifts : c'.nodes.memory.viewed view = e.shifts view (c.nodes.memory.viewed view)
  shows : e.Shows view (c.nodes.memory.viewed view)

namespace ViewChange

variable {c c' : Cluster ρ ε}

theorem silent {e : PlaneEvent} (h : Retains view c.nodes.memory c'.nodes.memory)
    (hshifts : ∀ nodes, e.shifts view nodes = nodes) (hshows : ∀ nodes, e.Shows view nodes) :
    ViewChange view c c' e :=
  ⟨h.keeps, by rw [h.viewed, hshifts], hshows _⟩

theorem ofOther {kind : Kind} (hkind : kind ≠ .node) {call : StoreCall kind.Model}
    {reply : Attempted call.Answer} (h : Retains view c.nodes.memory c'.nodes.memory) :
    ViewChange view c c' ⟨.call (.store kind call), reply⟩ := by
  cases kind with
  | node => exact absurd rfl hkind
  | _ => exact .silent h (fun _ => rfl) fun _ => trivial

theorem ofFailure {call : StoreCall Node} {reply : Attempted call.Answer}
    (hfail : ∀ a, reply ≠ .returned (.ok a)) (h : Retains view c.nodes.memory c'.nodes.memory) :
    ViewChange view c c' ⟨.call (.store .node call), reply⟩ := by
  refine .silent h ?_ ?_
  · rcases reply with (e | a) | payload
    · cases call <;> exact fun _ => rfl
    · exact absurd rfl (hfail a)
    · cases call <;> exact fun _ => rfl
  · rcases reply with (e | a) | payload
    · cases call <;> exact fun _ => trivial
    · exact absurd rfl (hfail a)
    · cases call <;> exact fun _ => trivial

end ViewChange

/-- Whatever answers a call on the nodes, what is viewed of them changes as the reply says. -/
theorem viewChange_serve_node {c : Cluster ρ ε} (hkeeps : c.nodes.memory.Keeps view)
    (call : StoreCall Node) :
    ViewChange view c (c.serve (.store .node call)).2
      ⟨.call (.store .node call), (c.serve (.store .node call)).1⟩ := by
  rw [serve]
  rcases @serve_store_cases .node _ call (c.store .node) c.log with
    ⟨reply, faults, log', hserve, hfail⟩ | ⟨faults, log', hserve⟩
  · rw [hserve]
    exact .ofFailure hfail (.of_eq hkeeps rfl rfl)
  · rw [hserve]
    cases call with
    | get name =>
      obtain ⟨hretains, hview⟩ := retains_get hkeeps name
      refine ⟨hretains.keeps, hretains.viewed, ?_⟩
      show Event.Shows view _ ⟨.call (.store .node (.get name)), (c.nodes.memory.get name).1⟩
      rcases hreply : (c.nodes.memory.get name).1 with (e | v) | payload
      · trivial
      · exact hview v hreply
      · trivial
    | list =>
      obtain ⟨hretains, hview⟩ := retains_list hkeeps
      refine ⟨hretains.keeps, hretains.viewed, ?_⟩
      show Event.Shows view _ ⟨.call (.store .node .list), c.nodes.memory.list.1⟩
      rcases hreply : c.nodes.memory.list.1 with (e | listed) | payload
      · trivial
      · exact hview listed hreply
      · trivial
    | update name desired expected =>
      rcases update_cases (c.store .node).memory name desired expected with
        ⟨e, heq⟩ | ⟨entry, -, -, heq⟩
      · rw [serve_update, heq]
        exact .ofFailure (by simp) (.of_eq hkeeps rfl rfl)
      · rw [serve_update, heq]
        exact ⟨hkeeps, viewed_commit name desired, trivial⟩
    | create node =>
      rcases create_cases (c.store .node).memory node with ⟨e, heq⟩ | ⟨-, heq⟩
      · rw [serve_create, heq]
        exact .ofFailure (by simp) (.of_eq hkeeps rfl rfl)
      · rw [serve_create, heq]
        exact ⟨hkeeps, viewed_commit _ node, trivial⟩
    | delete name =>
      rcases delete_cases (c.store .node).memory name with ⟨e, heq⟩ | ⟨-, heq⟩
      · rw [serve_delete, heq]
        exact .ofFailure (by simp) (.of_eq hkeeps rfl rfl)
      · rw [serve_delete, heq]
        exact ⟨hkeeps, viewed_erase name, trivial⟩

/-- Every call on a cluster changes what is viewed of the nodes as its reply says. -/
theorem viewChange_serve {c : Cluster ρ ε} (hkeeps : c.nodes.memory.Keeps view) (call : PlaneCall) :
    ViewChange view c (c.serve call).2 ⟨.call call, (c.serve call).1⟩ := by
  cases call with
  | exec node command => exact .silent (.refl hkeeps) (fun _ => rfl) fun _ => trivial
  | pullSecret => exact .silent (.refl hkeeps) (fun _ => rfl) fun _ => trivial
  | store kind call =>
    by_cases hkind : kind = .node
    · subst hkind
      exact viewChange_serve_node hkeeps call
    · refine .ofOther hkind ?_
      have hsame : (c.serve (.store kind call)).2.nodes = c.nodes := by
        cases kind <;> first | rfl | exact absurd rfl hkind
      rw [hsame]
      exact .refl hkeeps

/-- Time and chance leave the nodes alone. -/
theorem viewChange_reply {w : World (Cluster ρ ε)} (hkeeps : w.plane.nodes.memory.Keeps view)
    (q : planeInterface.timed.Query) :
    ViewChange view w.plane (World.reply serve q w).2.plane ⟨q, (World.reply serve q w).1⟩ := by
  cases q with
  | call call =>
    rw [World.reply_call]
    exact viewChange_serve hkeeps call
  | sleep span =>
    rw [World.reply_sleep, World.plane_slept]
    exact .silent (.refl hkeeps) (fun _ => rfl) fun _ => trivial
  | _ => exact .silent (.refl hkeeps) (fun _ => rfl) fun _ => trivial

/-- The trace of a stretch of a run says what became of the nodes, and its reads say what they were. -/
theorem viewed_of_path {w w' : World (Cluster ρ ε)} {t : PlaneTrace}
    (h : Program.Path (World.reply serve) w t w') (hkeeps : w.plane.nodes.memory.Keeps view) :
    w'.plane.nodes.memory.viewed view = viewedAfter view t (w.plane.nodes.memory.viewed view) ∧
      AllShow view t (w.plane.nodes.memory.viewed view) := by
  induction h with
  | nil w => exact ⟨rfl, fun s e u h => by simp at h⟩
  | cons query _ ih =>
    have hchange := viewChange_reply hkeeps query
    obtain ⟨hviewed, hshow⟩ := ih hchange.keeps
    rw [hchange.shifts] at hviewed hshow
    exact ⟨hviewed, .cons hchange.shows hshow⟩

end Rehearsal.Cluster

end BuildTrial
