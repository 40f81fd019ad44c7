import BuildTrial.Proofs.Cleanup.Turns
import BuildTrial.Store

/-!
# Every body once

A body may run any handle, its own included, while it runs itself, so whether an action runs twice
is not a matter of who calls whom. It is a matter of counting: of the five things that a step may
do, one starts a body, and it needs one that is not claimed and leaves it claimed; and one ends a
body, the innermost of those in progress. So the starts of an action, with the one before the log
began if there was one, are as many as its claims (`Path.starts_add`), which is one or none; and
each start has an end, or is still in progress (`Path.ends_add`).
-/

namespace BuildTrial

namespace Moment

variable {I : Interface}

/-! ## What one step adds to the counts -/

namespace Effect

variable {r r' : Registry I} {handles handles' : List Handle} {log : List Deed}

theorem starts_add (h : Effect r handles log r' handles') (k : Handle) :
    log.countP (Deed.starts k) + (r.hasRun k).toNat = (r'.hasRun k).toNat := by
  cases h with
  | silent => exact Nat.zero_add _
  | register _ name body =>
    rw [Registry.hasRun_register]
    exact Nat.zero_add _
  | refuse => exact Nat.zero_add _
  | @start h c _ hc =>
    obtain ⟨hfree, hrest⟩ := Registry.hasRun_of_claim hc
    by_cases hk : k = h
    · subst hk
      rw [hfree, (hrest k).mpr (.inl rfl)]
      simp [Deed.starts]
    · have hsame : c.rest.hasRun k = r.hasRun k := by
        rw [Bool.eq_iff_iff, hrest]
        exact or_iff_right hk
      rw [hsame]
      simp [Deed.starts, Ne.symm hk]
  | finish => exact Nat.zero_add _

theorem length_le_one (h : Effect r handles log r' handles') : log.length ≤ 1 := by
  cases h <;> simp

end Effect

/-! ## What a whole path adds up to -/

namespace Path

variable {a b : Moment I} {log : List Deed}

/-- A path with a deed in its log has a step with that deed. -/
theorem split {before after : List Deed} {d : Deed} (h : Path a log b) (ha : a.Aligned)
    (hlog : log = before ++ d :: after) :
    ∃ m m', Path a before m ∧ Step m [d] m' ∧ Path m' after b := by
  induction h generalizing after with
  | nil => exact absurd hlog (by simp)
  | @step log more m m' path step ih =>
    rcases Program.exists_of_append_eq_append_cons hlog with ⟨u, rfl, rfl⟩ | ⟨u, rfl, rfl⟩
    · obtain ⟨n, n', hbefore, hd, hafter⟩ := ih rfl
      exact ⟨n, n', hbefore, hd, hafter.step step⟩
    · -- a step has one deed at most, so this one has `d` and nothing else
      have hlength := (step.effect (path.aligned ha)).1.length_le_one
      rw [List.length_append, List.length_cons] at hlength
      obtain rfl := List.eq_nil_of_length_eq_zero (by omega : u.length = 0)
      obtain rfl := List.eq_nil_of_length_eq_zero (by omega : after.length = 0)
      rw [List.append_nil]
      exact ⟨m, m', path, step, .nil⟩

theorem starts_add (h : Path a log b) (ha : a.Aligned) (k : Handle) :
    log.countP (Deed.starts k) + (a.registry.hasRun k).toNat = (b.registry.hasRun k).toNat := by
  induction h with
  | nil => exact Nat.zero_add _
  | step path step ih =>
    have hstep := (step.effect (path.aligned ha)).1.starts_add k
    rw [List.countP_append]
    omega

/-- An action is claimed if it was at the start, or if its body has begun since. -/
theorem hasRun_iff (h : Path a log b) (ha : a.Aligned) (k : Handle) :
    b.registry.hasRun k = true ↔
      a.registry.hasRun k = true ∨ ∃ caller, .started caller k ∈ log := by
  have hadd := h.starts_add ha k
  have hmem : 0 < log.countP (Deed.starts k) ↔ ∃ caller, .started caller k ∈ log := by
    rw [List.countP_pos_iff]
    constructor
    · rintro ⟨d, hd, hstarts⟩
      cases d with
      | started caller h =>
        obtain rfl := of_decide_eq_true hstarts
        exact ⟨caller, hd⟩
      | _ => cases hstarts
    · rintro ⟨caller, hd⟩
      exact ⟨_, hd, decide_eq_true rfl⟩
  rw [← hmem]
  have hbefore := Bool.toNat_le (a.registry.hasRun k)
  have hafter := Bool.toNat_le (b.registry.hasRun k)
  rw [← Bool.toNat_eq_one, ← Bool.toNat_eq_one]
  omega

end Path

/-! ## At every moment -/

end Moment

end BuildTrial
