import BuildTrial.Proofs.Binary64.Order
import BuildTrial.Proofs.Retry.Course

/-!
# The greatest delay of a retry

A schedule is advanced by a product that is cut off at the greatest delay, whatever it is multiplied by: a
multiplier below one, one that makes the product infinite and one that is not a number all leave a delay
within the limit, or no schedule at all (`Backoff.delay_le_of_advanced`). The delays go through seconds on
the way, so the limit is the greatest delay as it comes back from them.

The first delay is not advanced to. It is what the configuration says, so it is within the limit exactly if
the configuration has it so.
-/

namespace BuildTrial.Backoff

variable {b after : Backoff} {cap : Duration}

/-! ## One delay -/

/-- An advanced schedule has a delay within the limit and is otherwise the same. -/
theorem delay_le_of_advanced (hcap : Duration.ofSeconds b.maxDelay.toSeconds = .ok cap)
    (h : b.advanced = .ok after) :
    after.delay ≤ cap ∧ after.maxDelay = b.maxDelay ∧ after.multiplier = b.multiplier := by
  unfold advanced at h
  cases hdelay : Duration.ofSeconds
      (min (b.delay.toSeconds * b.multiplier) b.maxDelay.toSeconds) with
  | error e =>
    rw [hdelay] at h
    cases h
  | ok delay =>
    rw [hdelay] at h
    cases h
    refine ⟨?_, rfl, rfl⟩
    exact Duration.ofSeconds_min_le (Binary64.fromLeast_mul _ _) (Duration.fromLeast_toSeconds _)
      hdelay hcap

theorem advanced_of_next {jitter : Jitter} {span : Duration}
    (h : b.next jitter = .returned (span, after)) : b.advanced = .ok after := by
  unfold next at h
  split at h
  · cases h
  split at h
  · cases h
  · rename_i hadvanced
    cases h
    exact hadvanced

/-! ## All delays -/

variable {factor : Nat → Jitter} {span : Nat → Duration} {schedule : Nat → Backoff} {n k : Nat}

theorem Delays.advanced (h : b.Delays factor span schedule n) (hk : k < n) :
    (schedule k).advanced = .ok (schedule (k + 1)) := advanced_of_next (h.next k hk)

/-- The greatest delay of a schedule stays what it is. -/
theorem Delays.maxDelay_eq (hcap : Duration.ofSeconds b.maxDelay.toSeconds = .ok cap)
    (h : b.Delays factor span schedule n) (hk : k ≤ n) : (schedule k).maxDelay = b.maxDelay := by
  induction k with
  | zero => rw [h.first]
  | succ k ih =>
    have hbefore := ih (Nat.le_of_succ_le hk)
    have hadvanced := delay_le_of_advanced (hbefore ▸ hcap) (h.advanced hk)
    exact hadvanced.2.1.trans hbefore

/-- All delays but the first are within the limit. -/
theorem Delays.delay_succ_le (hcap : Duration.ofSeconds b.maxDelay.toSeconds = .ok cap)
    (h : b.Delays factor span schedule n) (hk : k < n) : (schedule (k + 1)).delay ≤ cap := by
  have hmax := h.maxDelay_eq hcap hk.le
  exact (delay_le_of_advanced (hmax ▸ hcap) (h.advanced hk)).1

/-- Whatever the multiplier, a delay of the schedule is within the greatest one, unless it is the first and
the configuration has it beyond. -/
theorem delay_le_maxDelay_iff {config : RetryConfig}
    (hexact : Duration.ofSeconds config.maxDelay.toSeconds = .ok config.maxDelay)
    (h : (ofConfig config).Delays factor span schedule n) (hk : k ≤ n) :
    (schedule k).delay ≤ config.maxDelay ↔ 0 < k ∨ config.initialDelay ≤ config.maxDelay := by
  cases k with
  | zero =>
    rw [h.first]
    simp [ofConfig]
  | succ k =>
    have hle := h.delay_succ_le hexact hk
    simp [hle]

/-- Ten seconds, twenty seconds, and then the limit of thirty seconds again and again. -/
theorem delay_le_maxDelay_thirty :
    (ofConfig ⟨0, .ofSecs 10, .ofSecs 30, 2⟩).Delays (fun _ => .none)
        (fun i => min (.ofSecs (10 * 2 ^ i)) (.ofSecs 30))
        (fun i => ⟨min (.ofSecs (10 * 2 ^ i)) (.ofSecs 30), .ofSecs 30, 2⟩) 4 ∧
      ∀ k ≤ 4, min (Duration.ofSecs (10 * 2 ^ k)) (.ofSecs 30) ≤ .ofSecs 30 := by
  have hdelays : (ofConfig ⟨0, .ofSecs 10, .ofSecs 30, 2⟩).Delays (fun _ => .none)
      (fun i => min (.ofSecs (10 * 2 ^ i)) (.ofSecs 30))
      (fun i => ⟨min (.ofSecs (10 * 2 ^ i)) (.ofSecs 30), .ofSecs 30, 2⟩) 4 :=
    ⟨by decide +kernel, by decide +kernel⟩
  refine ⟨hdelays, fun k hk => ?_⟩
  exact (delay_le_maxDelay_iff (by decide +kernel) hdelays hk).mpr (.inr (by decide))

/-- A first delay of one second, where the greatest is a tenth of one: it is not cut off, and the delays after
it are. -/
theorem maxDelay_lt_delay_first :
    ∃ schedule : Nat → Backoff,
      Duration.ofSeconds (Duration.ofMillis 100).toSeconds = .ok (.ofMillis 100) ∧
      (ofConfig ⟨3, .ofSecs 1, .ofMillis 100, 2⟩).Delays (fun _ => .none)
        (fun i => (schedule i).delay) schedule 2 ∧
      ¬(schedule 0).delay ≤ .ofMillis 100 ∧ (schedule 1).delay ≤ .ofMillis 100 := by
  refine ⟨fun i => ⟨if i = 0 then .ofSecs 1 else .ofMillis 100, .ofMillis 100, 2⟩, ?_⟩
  exact ⟨by decide +kernel, ⟨by decide +kernel, by decide +kernel⟩, by decide, by decide⟩

end BuildTrial.Backoff
