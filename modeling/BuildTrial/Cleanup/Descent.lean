/-!
# Replacing a member by smaller ones

A list, taken without its order, gets smaller when one member is replaced by any number of members
below it. If nothing descends forever below one member, then neither does a list:
`Replaced.wellFounded`.
-/

namespace BuildTrial

/-- `after` is `before` with one member replaced by members below it, both up to order. -/
inductive Replaced {α : Type} (below : α → α → Prop) : List α → List α → Prop where
  | mk (new : List α) {before after rest : List α} {x : α} (split : before.Perm (x :: rest))
      (replace : after.Perm (new ++ rest)) (smaller : ∀ y ∈ new, below y x) :
      Replaced below after before

namespace Replaced

variable {α : Type} {below : α → α → Prop}

theorem of_perm {a b b' : List α} (h : Replaced below a b) (p : b.Perm b') :
    Replaced below a b' := by
  cases h with
  | mk new split replace smaller => exact .mk new (p.symm.trans split) replace smaller

theorem acc_of_perm {a b : List α} (p : a.Perm b) (h : Acc (Replaced below) a) :
    Acc (Replaced below) b :=
  .intro b fun _ hc => h.inv (hc.of_perm p.symm)

theorem acc_nil : Acc (Replaced below) [] :=
  .intro [] fun _ h => by
    cases h with
    | mk _ split _ _ => exact absurd split.length_eq (by simp)

theorem acc_cons {x : α} (hx : Acc below x) :
    ∀ {l : List α}, Acc (Replaced below) l → Acc (Replaced below) (x :: l) := by
  induction hx with
  | intro x _ ihx =>
    intro l hl
    induction hl with
    | intro l hl ihl =>
      refine .intro _ fun m hm => ?_
      cases hm with
      | @mk new _ _ rest z split replace smaller =>
        refine acc_of_perm replace.symm ?_
        have hz : z ∈ x :: l := split.mem_iff.2 (.head rest)
        rcases List.mem_cons.1 hz with rfl | hz
        · -- the member put in front is the one replaced
          have hrest : Acc (Replaced below) rest := acc_of_perm split.cons_inv (.intro l hl)
          clear replace split
          induction new with
          | nil => exact hrest
          | cons y ys ih =>
            exact ihx y (smaller y (.head ys)) (ih fun w hw => smaller w (.tail y hw))
        · obtain ⟨s, t, rfl⟩ := List.append_of_mem hz
          have hs : (x :: (s ++ z :: t)).Perm (z :: x :: (s ++ t)) :=
            (List.perm_middle.cons x).trans (.swap z x (s ++ t))
          have hrest : (x :: (s ++ t)).Perm rest := (hs.symm.trans split).cons_inv
          have hacc : Acc (Replaced below) (x :: (new ++ (s ++ t))) :=
            ihl _ (.mk new List.perm_middle (.refl _) smaller)
          refine acc_of_perm ?_ hacc
          exact (List.perm_middle.symm.trans (hrest.append_left new))

/-- If no member can descend forever, no list can. -/
theorem wellFounded (h : WellFounded below) : WellFounded (Replaced below) :=
  ⟨fun l => by
    induction l with
    | nil => exact acc_nil
    | cons x l ih => exact acc_cons (h.apply x) ih⟩

end Replaced

end BuildTrial
