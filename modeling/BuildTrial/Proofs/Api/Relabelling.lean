import BuildTrial.Proofs.Api.Cluster
import BuildTrial.Proofs.Api.Cycles
import BuildTrial.Proofs.Retry.Pause

/-!
# Relabelling against an API server

Pools and nodes are updated by overwriting their labels in the live object. An update reads the
object twice before it replaces it, and others may commit between any two of its requests, so the
replacement is built from another read than the one that the mutation was applied to. The version ties
the two together, and both to what is stored when the replacement is committed (`Replaces.commits`):
the API server backs what was read first, so what has its version later is what was read first.
-/

namespace BuildTrial.Api

/-- The kinds of which an update overwrites the labels and nothing else. -/
inductive Labelled where
  | pool
  | node

namespace Labelled

def kind : Labelled → Kind
  | pool => .pool
  | node => .node

def labels : (l : Labelled) → l.kind.Model → StringMap String
  | .pool => Pool.labels
  | .node => Node.labels

theorem writeTo_eq (l : Labelled) (resource : l.kind.Model) (object : Object) :
    l.kind.writeTo resource object = .ok (object.setLabels (l.labels resource)) := by
  cases l <;> rfl

/-- What is made of a name and an object takes the labels from the object. -/
theorem labels_of_nameOf_bind {α : Type} {kind : Kind} {object : Object} {labels : α → StringMap String}
    {make : String → α} {resource : α} (hmake : ∀ name, labels (make name) = object.labels)
    (h : (nameOf kind object >>= fun name => .ok (make name)) = .ok resource) :
    labels resource = object.labels := by
  cases hname : nameOf kind object with
  | error e =>
    rw [hname] at h
    cases h
  | ok name =>
    rw [hname] at h
    obtain rfl := Except.ok.inj h
    exact hmake name

theorem labels_of_read {l : Labelled} {object : Object} {resource : l.kind.Model}
    (h : l.kind.read object = .ok resource) : l.labels resource = object.labels := by
  cases l with
  | pool => exact labels_of_nameOf_bind (fun _ => rfl) h
  | node => exact labels_of_nameOf_bind (fun _ => rfl) h

end Labelled

open ApiStore Cluster

/-- A commit that applies a mutation to what is stored right then: the labels are those that the
mutation makes, the version is a new one, and everything else stays as it is. The answer is read off
the new object. -/
inductive Relabels (l : Labelled) (name : String) (mutation : l.kind.Model → Outcome l.kind.Model)
    (v : Versioned l.kind.Model) : Commit → Prop where
  | mk {before : Object} {resource desired : l.kind.Model} {version : String}
      (hread : l.kind.read before = .ok resource) (hlabels : l.labels resource = before.labels)
      (hdesired : mutation resource = .returned desired) (hversion : version ≠ before.version)
      (hv : snapshot l.kind ((before.setLabels (l.labels desired)).withVersion version) = .ok v) :
    Relabels l name mutation v ⟨address l.kind name, some before,
      some ((before.setLabels (l.labels desired)).withVersion version)⟩

section

variable {l : Labelled} {name : String} {mutation : l.kind.Model → Outcome l.kind.Model}
  {c c' : Cluster} {i : Nat} {happenings : List Happening} {reply : Reply} {commit : Option Commit}

/-! ## One request -/

theorem Cluster.Step.serves {request : Request}
    (h : Step c (.asked i ⟨.call request, reply⟩ commit) c') : c.Serves request reply commit c' := by
  cases h with
  | request _ serves => exact serves
  | time _ _ hquery => exact absurd rfl (hquery request)

theorem Cluster.Step.quiet {e : HttpEvent} (h : Step c (.asked i e commit) c') (he : Quiet e) :
    commit = none := by
  cases he with
  | get path reply => exact h.serves.get.1
  | jitter factor =>
    cases h with
    | time => rfl
  | sleep span =>
    cases h with
    | time => rfl

/-- A replacement that was built from an object that the API server backs, and that succeeds, is
committed over that object. -/
theorem Cluster.Serves.relabels {path : String} {seen object : Object}
    {resource desired : l.kind.Model} {v : Versioned l.kind.Model} (sound : c.Sound)
    (backs : c.Backs (address l.kind name) seen) (normal : seen.Normal)
    (hread : l.kind.read seen = .ok resource) (hdesired : mutation resource = .returned desired)
    (hpath : addressOf path = address l.kind name)
    (h : c.Serves ⟨.put, path,
      some ((seen.setLabels (l.labels desired)).withVersion seen.version).toJson⟩ reply commit c')
    (hobject : reply.object = .ok object) (hv : snapshot l.kind object = .ok v) :
    ∃ w, commit = some w ∧ Relabels l name mutation v w := by
  obtain ⟨before, sent, version, hbefore, hversion, hnormal, hnew, hbody, rfl, rfl⟩ := h.put hobject
  obtain rfl : (seen.setLabels (l.labels desired)).withVersion seen.version = sent :=
    ((normal.setLabels _).withVersion _).toJson_inj hnormal (Option.some.inj hbody)
  rw [hpath] at hbefore
  obtain rfl : before = seen := backs.2 before hbefore hversion.symm
  have hfresh : version ≠ before.version := fun heq =>
    hnew (heq ▸ (sound _ before hbefore).2)
  rw [hpath]
  exact ⟨_, rfl, .mk hread (l.labels_of_read hread) hdesired hfresh hv⟩

/-! ## One cycle -/

/-- A quiet question commits nothing. -/
theorem commits_of_quiet {e : HttpEvent} {t : HttpTrace} (sound : c.Sound)
    (history : History c happenings c') (he : Quiet e) (ht : askedBy i happenings = e :: t) :
    ∃ after c₁, c₁.Sound ∧ History c₁ after c' ∧ askedBy i after = t ∧
      commitsOf i happenings = commitsOf i after := by
  obtain ⟨commit, before, after, c₁, c₂, hbefore, hstep, hafter, hasked, hcommits⟩ :=
    history.split ht
  obtain rfl := hstep.quiet he
  exact ⟨after, c₂, hstep.sound (hbefore.sound sound), hafter, hasked, hcommits⟩

/-- Two reads that find the same version find the same object, and the API server backs it from then
on. -/
theorem same_of_reads {path₁ path₂ a : String} {first second : Reply} {seen live : Object}
    {t : HttpTrace} (sound : c.Sound) (history : History c happenings c')
    (ht : askedBy i happenings =
      ⟨.call ⟨.get, path₁, none⟩, first⟩ :: ⟨.call ⟨.get, path₂, none⟩, second⟩ :: t)
    (hpath₁ : addressOf path₁ = a) (hpath₂ : addressOf path₂ = a) (hseen : first.object = .ok seen)
    (hlive : second.object = .ok live) (hversion : live.version = seen.version) :
    live = seen ∧ seen.Normal ∧ ∃ after c₁, c₁.Sound ∧ c₁.Backs a seen ∧ History c₁ after c' ∧
      askedBy i after = t ∧ commitsOf i happenings = commitsOf i after := by
  obtain ⟨_, _, _, _, c₁, hbefore₁, hstep₁, hafter₁, hasked₁, hcommits₁⟩ := history.split ht
  obtain ⟨rfl, rfl⟩ := hstep₁.serves.get
  have hseen₁ : c₁.objects a = some seen := hpath₁ ▸ hstep₁.serves.objects_of_get hseen
  have sound₁ : c₁.Sound := hbefore₁.sound sound
  obtain ⟨_, _, after, _, c₂, hbefore₂, hstep₂, hafter₂, hasked₂, hcommits₂⟩ :=
    hafter₁.split hasked₁
  obtain ⟨rfl, rfl⟩ := hstep₂.serves.get
  have hlive₂ : c₂.objects a = some live := hpath₂ ▸ hstep₂.serves.objects_of_get hlive
  have backs₂ : c₂.Backs a seen := hbefore₂.backs (sound₁.backs hseen₁)
  exact ⟨backs₂.2 live hlive₂ hversion, (sound₁ a seen hseen₁).1, after, c₂, hbefore₂.sound sound₁,
    backs₂, hafter₂, hasked₂, hcommits₁.trans hcommits₂⟩

/-- One replacement with its two reads: it commits nothing if it is refused, and applies the mutation
if it succeeds. -/
theorem ApiStore.Replaces.commits {e₁ e₂ : HttpEvent} {request : Request} {t : HttpTrace}
    (h : Replaces l.kind name mutation e₁ e₂ request) (sound : c.Sound)
    (history : History c happenings c')
    (ht : askedBy i happenings = e₁ :: e₂ :: ⟨.call request, reply⟩ :: t) :
    ∃ commit after c₁, c₁.Sound ∧ History c₁ after c' ∧ askedBy i after = t ∧
      commitsOf i happenings = Option.toList commit ++ commitsOf i after ∧
      (reply.Refuses → commit = none) ∧
      ∀ object v, reply.object = .ok object → snapshot l.kind object = .ok v →
        ∃ w, commit = some w ∧ Relabels l name mutation v w := by
  cases h with
  | @mk _ _ path₃ _ _ seen live written resource desired hpath₁ hpath₂ hpath₃ hseen hread hdesired
      hlive hversion hwritten =>
  obtain ⟨rfl, normal, after₂, c₂, sound₂, backs₂, history₂, hasked₂, hcommits₂⟩ :=
    same_of_reads sound history ht hpath₁ hpath₂ hseen hlive hversion
  obtain ⟨commit, _, after, c₃, c₄, hbefore, hstep, hafter, hasked, hcommits⟩ :=
    history₂.split hasked₂
  have sound₃ : c₃.Sound := hbefore.sound sound₂
  refine ⟨commit, after, c₄, hstep.sound sound₃, hafter, hasked, hcommits₂.trans hcommits,
    hstep.serves.refuses, fun object v hobject hv => ?_⟩
  obtain rfl := Except.ok.inj ((l.writeTo_eq desired live).symm.trans hwritten)
  exact hstep.serves.relabels sound₃ (hbefore.backs backs₂) normal hread hdesired hpath₃ hobject hv

/-! ## Whole runs -/

/-- How many commits a run makes that ends in a certain way, and what they do. -/
theorem ApiStore.Cycles.commits {t : HttpTrace} {o : Outcome (Except Error (Versioned l.kind.Model))}
    (h : Cycles l.kind name mutation t o) (sound : c.Sound) (history : History c happenings c')
    (ht : askedBy i happenings = t) :
    (∀ v, o = .returned (.ok v) →
        ∃ w, commitsOf i happenings = [w] ∧ Relabels l name mutation v w) ∧
      ∀ resource n attempts, o = .returned (.error (.conflictExhausted resource n attempts)) →
        commitsOf i happenings = [] := by
  induction h generalizing c happenings with
  | nil hfailed => exact ⟨fun v ho => absurd ho (hfailed v), fun _ _ _ _ => commitsOf_eq_nil ht⟩
  | quiet he _ ih =>
    obtain ⟨after, c₁, sound₁, history₁, ht₁, hcommits⟩ := commits_of_quiet sound history he ht
    rw [hcommits]
    exact ih sound₁ history₁ ht₁
  | refused h hrefused _ ih =>
    obtain ⟨commit, after, c₁, sound₁, history₁, ht₁, hcommits, hnone, -⟩ :=
      h.commits sound history ht
    rw [hcommits, hnone hrefused]
    exact ih sound₁ history₁ ht₁
  | @replaced _ _ _ _ object v h hobject hv =>
    obtain ⟨commit, after, c₁, -, -, ht₁, hcommits, -, hsome⟩ := h.commits sound history ht
    refine ⟨fun v' ho => ?_, fun _ _ _ ho => by cases ho⟩
    obtain rfl := Except.ok.inj (Outcome.returned.inj ho)
    obtain ⟨w, rfl, hw⟩ := hsome object v hobject hv
    exact ⟨w, by rw [hcommits, commitsOf_eq_nil ht₁]; rfl, hw⟩
  | failed _ hexhausted =>
    refine ⟨fun v ho => (by cases ho), fun resource n attempts ho => ?_⟩
    exact absurd (Except.error.inj (Outcome.returned.inj ho)) (hexhausted resource n attempts)

/-- However the requests of a run fall between those of others and between what others write: a run
that ends well committed once, and that commit applied the mutation to what was stored just before
it; a run that used up its attempts committed nothing; and no replacement is sent except right after
two reads that found the same version. -/
theorem relabelled_once {config : RetryConfig}
    {o : Outcome (Except Error (Versioned l.kind.Model))} (sound : c.Sound)
    (history : History c happenings c')
    (h : (run l.kind (mutate name config mutation)).Runs (askedBy i happenings) o) :
    (∀ v, o = .returned (.ok v) →
        ∃ w, commitsOf i happenings = [w] ∧ Relabels l name mutation v w) ∧
      (∀ resource n attempts, o = .returned (.error (.conflictExhausted resource n attempts)) →
        commitsOf i happenings = []) ∧
      ∀ before path body reply after,
        askedBy i happenings = before ++ ⟨.call ⟨.put, path, body⟩, reply⟩ :: after →
          ∃ earlier e₁ e₂, before = earlier ++ [e₁, e₂] ∧
            Replaces l.kind name mutation e₁ e₂ ⟨.put, path, body⟩ := by
  have cycles : Cycles l.kind name mutation (askedBy i happenings) o := cycles_of_runs h
  obtain ⟨hok, hexhausted⟩ := cycles.commits sound history rfl
  exact ⟨hok, hexhausted, fun before path body reply after ht => cycles.replaces_of_put ht⟩

end

/-! ## A race

Someone else labels a pool between the two reads of a run, so the first cycle stops before its
replacement, and the second one commits over what the other one wrote. -/

namespace Race

open Mutate

def target : String := "/apis/machineconfiguration.openshift.io/v1/machineconfigpools/worker"

def pool (version : String) (labels : StringMap String) : Object :=
  { type := none
    metadata := { name := some "worker", resourceVersion := some version, labels := some labels } }

/-- What the others label the pool with. -/
def owned : StringMap String := (∅ : StringMap String).insert "owner" "a"

def labelled : StringMap String := owned.insert "role" "infra"

def toInfra (pool : Pool) : Outcome Pool :=
  .returned { pool with labels := pool.labels.insert "role" "infra" }

/-- The pool as the API server writes it. -/
def document (version labels : String) : Reply :=
  .answered 200 <| "\x7b\"metadata\":\x7b\"name\":\"worker\",\"resourceVersion\":\"" ++ version ++
    "\",\"labels\":\x7b" ++ labels ++ "\x7d\x7d\x7d"

def first : Reply := document "1" ""

def second : Reply := document "2" "\"owner\":\"a\""

def third : Reply := document "3" "\"owner\":\"a\",\"role\":\"infra\""

def read (reply : Reply) : HttpEvent := ⟨.call ⟨.get, target, none⟩, reply⟩

def replace : HttpEvent := ⟨.call ⟨.put, target ++ "?", some (pool "2" labelled).toJson⟩, third⟩

def commit : Commit :=
  ⟨address .pool "worker", some (pool "2" owned), some (pool "3" labelled)⟩

def happenings (span : Duration) : List Happening :=
  [.asked 0 (read first) none,
    .elsewhere ⟨address .pool "worker", some (pool "1" ∅), some (pool "2" owned)⟩,
    .asked 0 (read second) none, .asked 0 ⟨.jitter, .none⟩ none, .asked 0 ⟨.sleep span, ()⟩ none,
    .asked 0 (read second) none, .asked 0 (read second) none, .asked 0 replace (some commit)]

theorem object_first : first.object = .ok (pool "1" ∅) := by rfl

theorem object_second : second.object = .ok (pool "2" owned) := by rfl

theorem object_third : third.object = .ok (pool "3" labelled) := by rfl

theorem sentPath_get : sentPath Kind.pool.path "worker" "" = .ok target := by rfl

theorem sentPath_put : sentPath Kind.pool.path "worker" "?" = .ok (target ++ "?") := by rfl

/-- The run of the client. -/
theorem runs {span : Duration} (hspan : (Backoff.ofConfig .forConflicts).next .none =
      .returned (span, .ofConfig .forConflicts)) :
    (run Kind.pool (mutate "worker" .forConflicts toInfra)).Runs (askedBy 0 (happenings span))
      (.returned (snapshot .pool (pool "3" labelled))) := by
  rw [mutate, show countLimit = countLimit - 2 + 1 + 1 from rfl, cycleFrom_succ]
  refine runs_call_bind_iff.mpr
    (.inl ⟨[_], _, _, rfl, runs_get_of_object sentPath_get object_first, ?_⟩)
  refine runs_call_bind_iff.mpr
    (.inl ⟨[_], _, _, rfl, runs_update_of_stale sentPath_get object_second (by decide), ?_⟩)
  refine runs_pause_bind_iff.mpr ⟨.none, _, rfl, .inl ⟨span, _, _, hspan, rfl, ?_⟩⟩
  rw [cycleFrom_succ]
  refine runs_call_bind_iff.mpr
    (.inl ⟨[_], _, _, rfl, runs_get_of_object sentPath_get object_second, ?_⟩)
  exact runs_call_bind_iff.mpr (.inl ⟨[_, _], _, [], rfl,
    runs_update_of_object sentPath_get object_second rfl rfl sentPath_put object_third, .done _⟩)

def cluster : Cluster :=
  ⟨fun a => if a = address .pool "worker" then some (pool "1" ∅) else none, ["1"]⟩

theorem normal_pool (version : String) (labels : StringMap String) :
    (pool version labels).Normal := by
  refine ⟨⟨?_, ?_⟩, ?_, ?_⟩ <;> simp [pool, Json.Ordered]

theorem sound_cluster : cluster.Sound := by
  intro a object hobject
  simp only [cluster] at hobject
  split at hobject
  · obtain rfl := Option.some.inj hobject
    exact ⟨normal_pool _ _, List.mem_singleton.mpr rfl⟩
  · cases hobject

theorem step_read {c : Cluster} {reply : Reply} {object : Object}
    (hobject : c.objects (address .pool "worker") = some object)
    (hreply : reply.object = .ok object) : Step c (.asked 0 (read reply) none) c := by
  rw [← addressOf_sentPath (.inl rfl) sentPath_get] at hobject
  exact .request 0 (.found hobject hreply)

theorem step_replace {c : Cluster} (hnew : "3" ∉ c.versions)
    (hobject : c.objects (address .pool "worker") = some (pool "2" owned)) :
    Step c (.asked 0 replace (some commit))
      (c.store (address .pool "worker") (pool "2" labelled) "3") := by
  rw [commit, ← addressOf_sentPath (.inr rfl) sentPath_put] at *
  exact .request 0 (.replaced hobject rfl (normal_pool _ _) hnew (.inl object_third))

theorem history (span : Duration) : ∃ c', History cluster (happenings span) c' := by
  have hstart : cluster.objects (address .pool "worker") = some (pool "1" ∅) := by simp [cluster]
  have hwrite : Step cluster
      (.elsewhere ⟨address .pool "worker", some (pool "1" ∅), some (pool "2" owned)⟩)
      (cluster.store (address .pool "worker") (pool "1" owned) "2") :=
    hstart ▸ .write _ (normal_pool "1" owned) (by decide)
  have hwritten : (cluster.store (address .pool "worker") (pool "1" owned) "2").objects
      (address .pool "worker") = some (pool "2" owned) := by
    rw [objects_store]
    rfl
  have hread := step_read hwritten object_second
  have hreplace := step_replace (by decide) hwritten
  exact ⟨_, .cons (step_read hstart object_first) <| .cons hwrite <| .cons hread <|
    .cons (.time 0 _ (by simp) _) <| .cons (.time 0 _ (by simp) _) <| .cons hread <|
    .cons hread <| .cons hreplace <| .nil _⟩

end Race

theorem relabelled_once_raced :
    ∃ (span : Duration) (v : Versioned Pool) (w : Commit),
      (run Kind.pool (mutate "worker" .forConflicts Race.toInfra)).Runs
        (askedBy 0 (Race.happenings span)) (.returned (.ok v)) ∧
      commitsOf 0 (Race.happenings span) = [w] ∧ Relabels .pool "worker" Race.toInfra v w := by
  obtain ⟨span, hspan, -⟩ := Backoff.next_forConflicts .none
  obtain ⟨c', hhistory⟩ := Race.history span
  have hruns := Race.runs hspan
  obtain ⟨hok, -⟩ := relabelled_once (l := .pool) (i := 0) Race.sound_cluster hhistory hruns
  obtain ⟨w, hcommits, hw⟩ := hok _ rfl
  exact ⟨span, _, w, hruns, hcommits, hw⟩

end BuildTrial.Api
