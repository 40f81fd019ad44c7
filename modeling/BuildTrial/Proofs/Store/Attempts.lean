import Mathlib.Algebra.BigOperators.Group.Finset.Basic
import Mathlib.Algebra.Order.BigOperators.Group.Finset
import Mathlib.Tactic.Linarith
import Mathlib.Tactic.Ring
import BuildTrial.Proofs.Program.Trace

/-!
# Counting attempts

A log of update attempts of some clients that share one object. It is `Paced` if every attempt is by
a client that has not committed yet, and every attempt that a client makes in vain has a commit of
another to blame that it had not blamed before: so many commits precede it as it is attempts of its
client. That is all that has to be known of clients to bound their attempts. The client that commits
as number `k` has made `k` attempts at most (`Paced.tries_of_commit`), those that have not committed
have made no more than there are commits, and the sum of it all is a triangular number
(`Paced.length_le`).
-/

namespace BuildTrial

/-- An update attempt of the client with the given number. -/
structure Attempt where
  client : Nat
  accepted : Bool
deriving DecidableEq

namespace Attempt

/-- How often a client has tried. -/
def tries (log : List Attempt) (i : Nat) : Nat := (log.map client).count i

/-- The clients that have committed, in the order of their commits. -/
def winners (log : List Attempt) : List Nat :=
  log.filterMap fun a => if a.accepted then some a.client else none

@[simp] theorem tries_append (log more : List Attempt) (i : Nat) :
    tries (log ++ more) i = tries log i + tries more i := by
  rw [tries, List.map_append, List.count_append]
  rfl

@[simp] theorem tries_singleton (a : Attempt) (i : Nat) :
    tries [a] i = if a.client = i then 1 else 0 := by
  simp [tries, List.count_cons]

theorem tries_eq_zero {log : List Attempt} {i : Nat} (h : ∀ a ∈ log, a.client ≠ i) :
    tries log i = 0 := by
  refine List.count_eq_zero.mpr fun hi => ?_
  obtain ⟨a, ha, hclient⟩ := List.mem_map.mp hi
  exact h a ha hclient

@[simp] theorem winners_append (log more : List Attempt) :
    winners (log ++ more) = winners log ++ winners more := List.filterMap_append

@[simp] theorem winners_accepted (i : Nat) : winners [⟨i, true⟩] = [i] := rfl

@[simp] theorem winners_refused (i : Nat) : winners [⟨i, false⟩] = [] := rfl

theorem mem_winners {log : List Attempt} {i : Nat} (h : i ∈ winners log) :
    ∃ a ∈ log, a.client = i := by
  obtain ⟨a, ha, hclient⟩ := List.mem_filterMap.mp h
  split at hclient
  · exact ⟨a, ha, Option.some.inj hclient⟩
  · cases hclient

/-- An attempt of a client that has not committed adds nothing to the attempts of the others. -/
theorem map_tries_winners {log : List Attempt} {a : Attempt} (hnew : a.client ∉ winners log) :
    (winners log).map (tries (log ++ [a])) = (winners log).map (tries log) := by
  refine List.map_congr_left fun i hi => ?_
  have hne : a.client ≠ i := fun heq => hnew (heq ▸ hi)
  rw [tries_append, tries_singleton, if_neg hne]
  rfl

end Attempt

open Attempt

/-- Attempts of `n` clients, none of which goes on after its commit, and each of whose vain attempts
has a commit of its own to blame. -/
inductive Paced (n : Nat) : List Attempt → Prop where
  | nil : Paced n []
  | accepted {log : List Attempt} {i : Nat} (paced : Paced n log) (hi : i < n)
      (hnew : i ∉ winners log) (htries : tries log i ≤ (winners log).length) :
    Paced n (log ++ [⟨i, true⟩])
  | refused {log : List Attempt} {i : Nat} (paced : Paced n log) (hi : i < n)
      (hnew : i ∉ winners log) (htries : tries log i < (winners log).length) :
    Paced n (log ++ [⟨i, false⟩])

namespace Paced

variable {n : Nat} {log : List Attempt}

theorem nodup_winners (h : Paced n log) : (winners log).Nodup := by
  induction h with
  | nil => exact List.nodup_nil
  | accepted _ _ hnew _ ih =>
    rw [winners_append, List.nodup_append_comm]
    exact List.nodup_cons.mpr ⟨hnew, ih⟩
  | refused _ _ _ _ ih => simpa using ih

theorem client_lt (h : Paced n log) : ∀ i ∈ log.map client, i < n := by
  induction h with
  | nil => simp
  | accepted _ hi _ _ ih => simpa [or_imp, forall_and] using ⟨by simpa using ih, hi⟩
  | refused _ hi _ _ ih => simpa [or_imp, forall_and] using ⟨by simpa using ih, hi⟩

theorem winner_lt (h : Paced n log) {i : Nat} (hi : i ∈ winners log) : i < n := by
  obtain ⟨a, ha, rfl⟩ := mem_winners hi
  exact h.client_lt _ (List.mem_map_of_mem ha)

/-- There are no more commits than clients. -/
theorem length_winners_le (h : Paced n log) : (winners log).length ≤ n := by
  have hsub : (winners log).Subperm (List.range n) :=
    h.nodup_winners.subperm fun i hi => List.mem_range.mpr (h.winner_lt hi)
  simpa using hsub.length_le

/-- As long as a client has not committed, fewer than all have. -/
theorem length_winners_lt (h : Paced n log) {i : Nat} (hi : i < n) (hnew : i ∉ winners log) :
    (winners log).length < n := by
  have hnodup : (i :: winners log).Nodup := List.nodup_cons.mpr ⟨hnew, h.nodup_winners⟩
  have hsub : (i :: winners log).Subperm (List.range n) :=
    hnodup.subperm fun j hj => by
      rcases List.mem_cons.mp hj with rfl | hj
      · exact List.mem_range.mpr hi
      · exact List.mem_range.mpr (h.winner_lt hj)
  have hle := hsub.length_le
  rwa [List.length_cons, List.length_range] at hle

/-- A client that has not committed has tried no more often than others have committed. -/
theorem tries_le (h : Paced n log) {i : Nat} (hnew : i ∉ winners log) :
    tries log i ≤ (winners log).length := by
  induction h with
  | nil => exact Nat.le_refl 0
  | @accepted log j _ _ _ _ ih =>
    rw [winners_append, List.mem_append, winners_accepted, List.mem_singleton, not_or] at hnew
    have hle := ih hnew.1
    rw [tries_append, tries_singleton, if_neg (Ne.symm hnew.2), winners_append, List.length_append]
    omega
  | @refused log j _ _ _ htries ih =>
    rw [winners_append, winners_refused, List.append_nil] at hnew ⊢
    rw [tries_append, tries_singleton]
    dsimp only
    split
    · rename_i hij
      exact hij ▸ htries
    · exact ih hnew

/-- The client that commits as number `k` has made `k` attempts at most. -/
theorem tries_of_commit (h : Paced n log) {before after : List Attempt} {i : Nat}
    (hlog : log = before ++ ⟨i, true⟩ :: after) :
    tries (before ++ [⟨i, true⟩]) i ≤ (winners (before ++ [⟨i, true⟩])).length := by
  induction h generalizing after with
  | nil => exact absurd hlog (by simp)
  | @accepted log j _ _ _ htries ih =>
    rcases Program.exists_of_append_eq_append_cons hlog with ⟨u, hu, -⟩ | ⟨u, rfl, hu⟩
    · exact ih hu
    · cases u with
      | nil =>
        cases hu
        simpa using htries
      | cons a u => simp at hu
  | @refused log j _ _ _ htries ih =>
    rcases Program.exists_of_append_eq_append_cons hlog with ⟨u, hu, -⟩ | ⟨u, rfl, hu⟩
    · exact ih hu
    · cases u with
      | nil => cases hu
      | cons a u => simp at hu

/-- The attempts of those that have committed, which were one at most for the first, two for the
second, and so on. -/
theorem sum_tries_winners_le (h : Paced n log) :
    2 * ((winners log).map (tries log)).sum ≤
      (winners log).length * ((winners log).length + 1) := by
  induction h with
  | nil => exact Nat.le_refl 0
  | @accepted log j _ _ hnew htries ih =>
    rw [winners_append, winners_accepted, List.map_append, map_tries_winners hnew]
    simp only [List.map_singleton, List.sum_append, List.sum_singleton, tries_append,
      tries_singleton, if_true, List.length_append, List.length_singleton]
    calc 2 * (((winners log).map (tries log)).sum + (tries log j + 1))
        ≤ (winners log).length * ((winners log).length + 1) + 2 * ((winners log).length + 1) := by
          omega
      _ = ((winners log).length + 1) * ((winners log).length + 1 + 1) := by ring
  | refused _ _ hnew _ ih =>
    rw [winners_append, winners_refused, List.append_nil, map_tries_winners hnew]
    exact ih

/-- All attempts are those of the clients. -/
theorem sum_tries (h : Paced n log) : ∑ i ∈ Finset.range n, tries log i = log.length := by
  have hcount := Multiset.sum_count_eq_card (s := Finset.range n)
    (m := (log.map client : Multiset Nat)) fun i hi => Finset.mem_range.mpr (h.client_lt i hi)
  simpa [tries] using hcount

/-- All attempts together are no more than the sum of the first `n` numbers. -/
theorem length_le (h : Paced n log) : log.length ≤ n * (n + 1) / 2 := by
  have hle := h.length_winners_le
  have hwinners := h.sum_tries_winners_le
  have hsubset : (winners log).toFinset ⊆ Finset.range n := fun i hi =>
    Finset.mem_range.mpr (h.winner_lt (List.mem_toFinset.mp hi))
  have hcard : (Finset.range n \ (winners log).toFinset).card = n - (winners log).length := by
    rw [Finset.card_sdiff_of_subset hsubset, Finset.card_range,
      List.toFinset_card_of_nodup h.nodup_winners]
  have hothers : ∑ i ∈ Finset.range n \ (winners log).toFinset, tries log i ≤
      (n - (winners log).length) * (winners log).length := by
    refine (Finset.sum_le_card_nsmul _ _ (winners log).length fun i hi => h.tries_le ?_).trans ?_
    · exact fun hmem => (Finset.mem_sdiff.mp hi).2 (List.mem_toFinset.mpr hmem)
    · rw [hcard, Nat.nsmul_eq_mul]
  have hsplit := Finset.sum_sdiff (f := tries log) hsubset
  rw [h.sum_tries, List.sum_toFinset _ h.nodup_winners] at hsplit
  rw [Nat.le_div_iff_mul_le Nat.two_pos]
  obtain ⟨rest, hrest⟩ := Nat.exists_eq_add_of_le hle
  rw [Nat.sub_eq_of_eq_add' hrest] at hothers
  rw [hrest]
  nlinarith

end Paced

end BuildTrial
