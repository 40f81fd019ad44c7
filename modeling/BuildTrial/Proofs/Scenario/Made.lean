import BuildTrial.Proofs.Codec.BuildConfiguration
import BuildTrial.Proofs.Scenario.Phased
import BuildTrial.Proofs.Wait.Polls

/-!
# What resources are created from

A run creates five resources, and what is in them it has from its options or from what the control plane
has shown it: the pull secret of the cluster, the first secret that the builder may push with, the
reference of the image repository. `Event.Made` says which, for an event and the trace before it, and
`Contents` says it of a whole trace.
-/

namespace BuildTrial

theorem ImageRepository.pullspec?_eq_some {repository : ImageRepository} {pullspec : String}
    (h : repository.pullspec? = some pullspec) :
    ∃ reference, repository.repository = some reference ∧ reference ≠ "" ∧
      pullspec = reference ++ ":latest" := by
  unfold pullspec? at h
  split at h
  · rename_i reference hreference
    split at h
    · cases h
    · rename_i hne
      exact ⟨reference, hreference, hne, (Option.some.inj h).symm⟩
  · cases h

/-! ## Reading a trace -/

namespace Event

/-- Whether the event is an attempt to create something. -/
def isCreation : PlaneEvent → Bool
  | ⟨.call (.store _ (.create _)), _⟩ => true
  | _ => false

/-- The secrets that a listing showed. -/
def listed? : PlaneEvent → Option (List (Versioned Secret))
  | ⟨.call (.store .secret .list), .returned (.ok secrets)⟩ => some secrets
  | _ => none

/-- The pull secret of the cluster as it was handed out. -/
def pulled? : PlaneEvent → Option Secret
  | ⟨.call .pullSecret, .returned (.ok secret)⟩ => some secret
  | _ => none

/-- The image repository that a read showed. -/
def shownRepository? : PlaneEvent → Option ImageRepository
  | ⟨.call (.store .imageRepository (.get _)), .returned (.ok v)⟩ => some v.object
  | _ => none

/-- A question of a wait for the object with this name. -/
inductive Polls (kind : Kind) (name : String) : PlaneEvent → Prop where
  | get (reply : Attempted (Versioned kind.Model)) :
      Polls kind name ⟨.call (.store kind (.get name)), reply⟩
  | now (instant : Instant) : Polls kind name ⟨.now, instant⟩
  | sleep (span : Duration) : Polls kind name ⟨.sleep span, ()⟩

theorem Polls.isCreation_eq {kind : Kind} {name : String} {e : PlaneEvent} (h : Polls kind name e) :
    e.isCreation = false := by
  cases h <;> rfl

theorem Polls.aside {kind : Kind} {name : String} {e : PlaneEvent} (h : Polls kind name e) :
    e.listed? = none ∧ e.pulled? = none := by
  cases h with
  | get reply => cases kind <;> exact ⟨rfl, rfl⟩
  | now instant => exact ⟨rfl, rfl⟩
  | sleep span => exact ⟨rfl, rfl⟩

/-- An event of a run that creates nothing, or creates one of the five resources that a build depends
on, from what the events of `s` before it have shown. -/
inductive Made (options : ScenarioOptions) (s : PlaneTrace) : PlaneEvent → Prop where
  | repository (reply : Attempted (Versioned ImageRepository)) : Made options s
      ⟨.call (.store .imageRepository (.create { name := imageRepositoryName })), reply⟩
  /-- A copy of the pull secret of the cluster, which was handed out once. -/
  | pullSecret (pull : Secret) (pulled : s.filterMap pulled? = [pull])
      (reply : Attempted (Versioned Secret)) : Made options s
      ⟨.call (.store .secret (.create
        { name := "global-pull-secret-copy", type := pull.type, data := pull.data })), reply⟩
  /-- A map that holds a build configuration: the builder of the options, the name of that copy, the
  first of the secrets listed that the builder may push with, and the place that the last read of the
  image repository showed. -/
  | configuration (map : ConfigMap) (name : map.name = BuildConfiguration.mapName)
      (secrets : List (Versioned Secret)) (listed : s.filterMap listed? = [secrets])
      (push : Versioned Secret)
      (first : secrets.find? (fun secret =>
        Text.startsWith secret.object.name "builder-dockercfg-") = some push)
      (repository : ImageRepository)
      (shown : (s.filterMap shownRepository?).getLast? = some repository)
      (reference : String) (resolved : repository.repository = some reference)
      (nonEmpty : reference ≠ "")
      (parsed : BuildConfiguration.ofConfigMap map = .ok
        { builderType := options.builderType, basePullSecret := "global-pull-secret-copy"
          finalPushSecret := push.object.name, finalPullspec := reference ++ ":latest" })
      (reply : Attempted (Versioned ConfigMap)) :
      Made options s ⟨.call (.store .configMap (.create map)), reply⟩
  | pool (reply : Attempted (Versioned Pool)) :
      Made options s ⟨.call (.store .pool (.create { name := options.poolName })), reply⟩
  | dockerfiles (reply : Attempted (Versioned ConfigMap)) : Made options s
      ⟨.call (.store .configMap (.create
        { name := Dockerfiles.mapName, data := options.dockerfiles })), reply⟩
  | nothing (e : PlaneEvent) (h : e.isCreation = false) : Made options s e

end Event

theorem Wait.Poll.onPlane {kind : Kind} {name : String} {e : StoreEvent kind.Model}
    (h : Wait.Poll name e) : Event.Polls kind name (e.onPlane kind) := by
  cases h with
  | get reply => exact .get reply
  | now instant => exact .now instant
  | sleep span => exact .sleep span

/-- Every resource in the trace is created from what was shown before. -/
def Contents (options : ScenarioOptions) (t : PlaneTrace) : Prop :=
  Program.Throughout (fun s e => e.Made options s) t

variable {options : ScenarioOptions}

theorem Contents.append {t u : PlaneTrace} (h : Contents options t)
    (hu : ∀ e ∈ u, Event.isCreation e = false) : Contents options (t ++ u) :=
  Program.Throughout.append h fun s e u' heq => .nothing e (hu e (by simp [heq]))

end BuildTrial
