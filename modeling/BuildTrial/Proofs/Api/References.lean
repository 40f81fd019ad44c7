import Mathlib.Data.List.TakeWhile
import BuildTrial.Api.Representation

/-!
# References that are present but empty

Resources refer to images, configurations, registries and machines that are not there from the start. In
the objects of the cluster a reference that is present but empty counts as absent, so whoever reads a
resource should find a reference either missing or with something in it. One reference is shortened after
it was found not to be empty: that to the machine of a node loses its namespace. So `heldBy_eq_empty_iff`
has one exception, a namespace with no name behind it.
-/

namespace BuildTrial

/-! ## Cutting at a character -/

namespace Text

variable {separator : Char} {s before rest : String}

theorem splitFirst?_eq_none_iff : splitFirst? separator s = none ↔ separator ∉ s.toList := by
  have hdrop : s.toList.dropWhile (· != separator) = [] ↔ separator ∉ s.toList := by
    rw [List.dropWhile_eq_nil_iff]
    constructor
    · intro hall hmem
      simpa using hall separator hmem
    · intro hnot c hc
      rw [bne_iff_ne]
      rintro rfl
      exact hnot hc
  rw [← hdrop, splitFirst?]
  cases s.toList.dropWhile (· != separator) with
  | nil => simp
  | cons c cs => simp

/-- The text is cut at the first separator, and nothing but that is lost. -/
theorem splitFirst?_eq_some_iff : splitFirst? separator s = some (before, rest) ↔
    separator ∉ before.toList ∧ s.toList = before.toList ++ separator :: rest.toList := by
  constructor
  · intro h
    unfold splitFirst? at h
    cases hdrop : s.toList.dropWhile (· != separator) with
    | nil =>
      rw [hdrop] at h
      cases h
    | cons c cs =>
      rw [hdrop] at h
      obtain ⟨rfl, rfl⟩ := Prod.mk.inj (Option.some.inj h)
      have hc : c = separator := by
        have hhead := List.head?_dropWhile_not (· != separator) s.toList
        rw [hdrop] at hhead
        simpa using hhead
      rw [String.toList_ofList, String.toList_ofList]
      constructor
      · intro hmem
        simpa using List.mem_takeWhile_imp hmem
      · calc s.toList
          _ = s.toList.takeWhile (· != separator) ++ s.toList.dropWhile (· != separator) :=
            List.takeWhile_append_dropWhile.symm
          _ = s.toList.takeWhile (· != separator) ++ separator :: cs := by rw [hdrop, hc]
  · rintro ⟨hbefore, hs⟩
    have hpasses : ∀ c ∈ before.toList, (c != separator) = true := by
      intro c hc
      rw [bne_iff_ne]
      rintro rfl
      exact hbefore hc
    unfold splitFirst?
    rw [hs, List.dropWhile_append_of_pos hpasses, List.takeWhile_append_of_pos hpasses]
    simp

end Text

namespace Api

theorem Metadata.annotation?_eq_some_iff {m : Metadata} {key value : String} :
    m.annotation? key = some value ↔ m.annotations.bind (·[key]?) = some value ∧ value ≠ "" := by
  rw [annotation?, Option.filter_eq_some_iff]
  simp

/-- Nothing is left of a reference without its namespace if it ends where the name should begin. -/
theorem withoutNamespace_eq_empty_iff {reference : String} (h : reference ≠ "") :
    withoutNamespace reference = "" ↔ ∃ space : String, '/' ∉ space.toList ∧ reference = space ++ "/" := by
  unfold withoutNamespace
  cases hsplit : Text.splitFirst? '/' reference with
  | none =>
    have hnot := Text.splitFirst?_eq_none_iff.mp hsplit
    refine iff_of_false h ?_
    rintro ⟨space, -, rfl⟩
    simp at hnot
  | some parts =>
    obtain ⟨before, rest⟩ := parts
    constructor
    · rintro rfl
      obtain ⟨hbefore, hreference⟩ := Text.splitFirst?_eq_some_iff.mp hsplit
      refine ⟨before, hbefore, String.toList_injective ?_⟩
      rw [hreference, String.toList_append]
      rfl
    · rintro ⟨space, hspace, rfl⟩
      have hcut : Text.splitFirst? '/' (space ++ "/") = some (space, "") := by
        refine Text.splitFirst?_eq_some_iff.mpr ⟨hspace, ?_⟩
        rw [String.toList_append]
        rfl
      rw [hcut] at hsplit
      exact (Prod.mk.inj (Option.some.inj hsplit)).2.symm

end Api

/-! ## What resources refer to -/

/-- The references that a resource holds once somebody has reported them. -/
inductive Reference where
  /-- The image that the last successful build of a pool published. -/
  | builtImage
  /-- The merged configuration of a pool. -/
  | renderedConfig
  /-- Where the registry serves an image repository. -/
  | repository
  /-- The image that a node booted. -/
  | bootedImage
  /-- What the daemon of a node reports. -/
  | nodeState
  /-- The machine behind a node. -/
  | machine
deriving DecidableEq, Repr

namespace Reference

/-- What a resource holds of the reference, if its kind has one like it. -/
def heldBy : Reference → (kind : Kind) → kind.Model → Option String
  | .builtImage, .pool => Pool.image
  | .renderedConfig, .pool => fun (pool : Pool) => pool.rendered.map RenderedConfig.name
  | .repository, .imageRepository => ImageRepository.repository
  | .bootedImage, .node => Node.image
  | .nodeState, .node => Node.state
  | .machine, .node => Node.machine
  | _, _ => fun _ => none

end Reference

namespace Api

variable {object : Object}

theorem nonEmptyText?_ne_empty {json : Json} {key : String} : nonEmptyText? json key ≠ some "" := by
  intro h
  rw [nonEmptyText?, Option.filter_eq_some_iff] at h
  simp at h

theorem Metadata.annotation?_ne_empty {m : Metadata} {key : String} :
    m.annotation? key ≠ some "" := by
  intro h
  exact (annotation?_eq_some_iff.mp h).2 rfl

theorem renderedConfigOf?_ne_empty {status : Json} :
    (renderedConfigOf? status).map RenderedConfig.name ≠ some "" := by
  intro h
  obtain ⟨rendered, hrendered, hname⟩ := Option.map_eq_some_iff.mp h
  simp only [renderedConfigOf?, Option.bind_eq_bind, Option.bind_eq_some_iff] at hrendered
  obtain ⟨configuration, -, name, htext, hrest⟩ := hrendered
  obtain rfl := Option.some.inj hrest
  rw [show name = "" from hname] at htext
  exact nonEmptyText?_ne_empty htext

/-- The machine of a node is present but empty if its annotation has a namespace and no name. -/
theorem machine_eq_empty_iff {m : Metadata} :
    (m.annotation? nodeMachineKey).map withoutNamespace = some "" ↔
      ∃ space : String, '/' ∉ space.toList ∧
        m.annotations.bind (·[nodeMachineKey]?) = some (space ++ "/") := by
  rw [Option.map_eq_some_iff]
  constructor
  · rintro ⟨reference, hreference, hempty⟩
    obtain ⟨hvalue, hne⟩ := Metadata.annotation?_eq_some_iff.mp hreference
    obtain ⟨space, hspace, rfl⟩ := (withoutNamespace_eq_empty_iff hne).mp hempty
    exact ⟨space, hspace, hvalue⟩
  · rintro ⟨space, hspace, hvalue⟩
    have hne : space ++ "/" ≠ "" := by simp
    exact ⟨_, Metadata.annotation?_eq_some_iff.mpr ⟨hvalue, hne⟩,
      (withoutNamespace_eq_empty_iff hne).mpr ⟨space, hspace, rfl⟩⟩

end Api

namespace Kind

open Api

/-- A resource is read under its name, whatever else is in its object. -/
theorem exists_of_nameOf_bind {kind : Kind} {α : Type} {make : String → α} {object : Object} {a : α}
    (h : (nameOf kind object >>= fun name => .ok (make name)) = .ok a) : ∃ name, a = make name := by
  cases hname : nameOf kind object with
  | error e =>
    rw [hname] at h
    cases h
  | ok name =>
    rw [hname] at h
    exact ⟨name, (Except.ok.inj h).symm⟩

/-- No reference that is read from an object is present but empty, with one exception: the machine of a
node whose annotation ends with the namespace. -/
theorem heldBy_eq_empty_iff {kind : Kind} {object : Object} {resource : kind.Model}
    (h : kind.read object = .ok resource) (reference : Reference) :
    reference.heldBy kind resource = some "" ↔
      reference = .machine ∧ kind = .node ∧ ∃ space : String, '/' ∉ space.toList ∧
        object.metadata.annotations.bind (·[nodeMachineKey]?) = some (space ++ "/") := by
  cases kind with
  | pool =>
    obtain ⟨name, rfl⟩ := exists_of_nameOf_bind h
    cases reference with
    | builtImage => simpa [Reference.heldBy] using Metadata.annotation?_ne_empty
    | renderedConfig => simpa [Reference.heldBy] using renderedConfigOf?_ne_empty
    | _ => simp [Reference.heldBy]
  | imageRepository =>
    obtain ⟨name, rfl⟩ := exists_of_nameOf_bind h
    cases reference with
    | repository => simpa [Reference.heldBy] using nonEmptyText?_ne_empty
    | _ => simp [Reference.heldBy]
  | node =>
    obtain ⟨name, rfl⟩ := exists_of_nameOf_bind h
    cases reference with
    | bootedImage => simpa [Reference.heldBy] using Metadata.annotation?_ne_empty
    | nodeState => simpa [Reference.heldBy] using Metadata.annotation?_ne_empty
    | machine => simpa [Reference.heldBy] using machine_eq_empty_iff
    | _ => simp [Reference.heldBy]
  | configMap => cases reference <;> simp [Reference.heldBy]
  | secret => cases reference <;> simp [Reference.heldBy]
  | machine => cases reference <;> simp [Reference.heldBy]

/-- A node whose only annotation is the one with its machine. -/
def nodeBehind (machine : String) : Object where
  type := some ⟨"v1", "Node"⟩
  metadata := { name := some "worker-0", annotations := some (.ofList [(nodeMachineKey, machine)]) }

/-- The name behind a namespace is a machine, and nothing else of the node is empty. -/
theorem heldBy_eq_empty_iff_named :
    Kind.read .node (nodeBehind "openshift-machine-api/m-0") =
        .ok { name := "worker-0", machine := some "m-0" } ∧
      ∀ reference : Reference,
        reference.heldBy .node { name := "worker-0", machine := some "m-0" } ≠ some "" := by
  have hread : Kind.read .node (nodeBehind "openshift-machine-api/m-0") =
      .ok { name := "worker-0", machine := some "m-0" } := rfl
  refine ⟨hread, fun reference hempty => ?_⟩
  obtain ⟨rfl, -, -⟩ := (heldBy_eq_empty_iff hread reference).mp hempty
  exact absurd hempty (by decide)

/-- A namespace with nothing behind it is a machine without a name. -/
theorem machine_present_but_empty :
    ∃ node : Node, Kind.read .node (nodeBehind "openshift-machine-api/") = .ok node ∧
      node.machine = some "" ∧ Reference.machine.heldBy .node node = some "" :=
  ⟨{ name := "worker-0", machine := some "" }, rfl, rfl, rfl⟩

end Kind

end BuildTrial
