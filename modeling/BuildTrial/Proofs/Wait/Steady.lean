import BuildTrial.Proofs.Program.Drift
import BuildTrial.Proofs.Wait.Polls

/-!
# Waits are steady

Two waits for the same object that begin in the same second poll equally often, provided that their
budgets allow for the same whole seconds (`SameBudget`): each poll comes a number of whole seconds
after the first, so whatever a clock is off the second makes no difference to which poll is the last.
A budget that is cut off at a deadline shrinks by what the clock is off, which is less than a second
in both worlds and nothing in one only if it is nothing in the other.
-/

namespace BuildTrial

open Program

namespace Wait

/-- Two budgets that allow for the same whole seconds. -/
def SameBudget (budget budget' : Duration) : Prop :=
  ∀ secs, budget < .ofSecs secs ↔ budget' < .ofSecs secs

/-- Two waits that poll alike: at the same whole seconds, and within the same ones. -/
structure PollAlike (config config' : WaitConfig) : Prop where
  description : config'.description = config.description
  interval : ∃ secs, config.pollInterval = .ofSecs secs ∧ config'.pollInterval = .ofSecs secs
  budget : SameBudget config.timeout config'.timeout

/-- Clocks that show the same second leave waits alike that are cut off at a deadline on a whole
second. -/
theorem pollAlike_boundedBy {config : WaitConfig} {budget interval deadline t t' : Nat}
    (hbudget : config.timeout = .ofSecs budget) (hinterval : config.pollInterval = .ofSecs interval)
    (h : SameSecond t t') :
    PollAlike (config.boundedBy (.ofMillis (1000 * deadline)) (.ofMillis t))
      (config.boundedBy (.ofMillis (1000 * deadline)) (.ofMillis t')) := by
  refine ⟨by simp, ⟨interval, by simpa, by simpa⟩, fun secs => ?_⟩
  have hseconds := h.seconds
  have honTime := h.onTime
  simp only [WaitConfig.timeout_boundedBy, hbudget, Duration.lt_def, Duration.nanos_min, Duration.ofSecs,
    Instant.since, Instant.ofMillis, Duration.ofMillis, Duration.nanosPerSec,
    Duration.nanosPerMilli]
  omega

theorem since_now {σ : Type} {w : World σ} {t m : Nat} (h : w.clock = t + 1000 * m) :
    w.now.since (.ofMillis t) = .ofSecs m := by
  simp only [World.now, Instant.since, Instant.ofMillis, Duration.ofMillis, Duration.ofSecs,
    Duration.nanosPerMilli, Duration.nanosPerSec, h, Duration.mk.injEq]
  omega

theorem ofSecs_add (a b : Nat) : Duration.ofSecs a + .ofSecs b = .ofSecs (a + b) :=
  congrArg Duration.mk (Nat.add_mul a b _).symm

/-- A sleep of whole seconds lasts whole seconds. -/
theorem ceilMillis_ofSecs (secs : Nat) :
    (min (Duration.ofSecs secs) World.longestSleep).ceilMillis =
      1000 * min secs (30 * 365 * 86400) := by
  have hmin : (min (Duration.ofSecs secs) World.longestSleep).nanos =
      min secs (30 * 365 * 86400) * 1000000000 := by
    rw [Duration.nanos_min]
    simp only [Duration.ofSecs, World.longestSleep, Duration.nanosPerSec]
    omega
  unfold Duration.ceilMillis
  rw [hmin]
  simp only [Duration.nanosPerMilli]
  omega

variable {T σ : Type} {answer : (call : StoreCall T) → σ → Attempted call.Answer × σ}
  {name : String} {predicate : T → Verdict} {config config' : WaitConfig} {t t' : Nat}

/-- Polls that come the same number of seconds after the start of their waits end alike. -/
theorem endAlike_pollFrom (h : PollAlike config config') :
    ∀ left m {n} {w w' : World σ}, Drift n w w' → w.clock = t + 1000 * m →
      w'.clock = t' + 1000 * m →
        EndAlike (I := storeInterface T) answer n
          (pollFrom name config predicate (.ofMillis t) left)
          (pollFrom name config' predicate (.ofMillis t') left) w w' := by
  obtain ⟨hdescription, ⟨interval, hinterval, hinterval'⟩, hbudget⟩ := h
  intro left
  induction left with
  | zero => exact fun m n w w' hdrift _ _ => ⟨rfl, hdrift⟩
  | succ left ih =>
    have hagain : ∀ m {n} {w w' : World σ}, Drift n w w' → w.clock = t + 1000 * m →
        w'.clock = t' + 1000 * m → EndAlike (I := storeInterface T) answer n
          (again name config predicate (.ofMillis t) left)
          (again name config' predicate (.ofMillis t') left) w w' := by
      intro m n w w' hdrift hclock hclock'
      unfold EndAlike again
      rw [runIn_now_bind, runIn_now_bind, since_now hclock, since_now hclock', hinterval,
        hinterval', ofSecs_add]
      -- as many seconds have gone by in both waits, so both give up here or neither does
      have hsame := hbudget (m + interval)
      by_cases hlate : config.timeout < .ofSecs (m + interval)
      · rw [if_pos hlate, if_pos (hsame.mp hlate), hdescription]
        exact ⟨rfl, hdrift⟩
      · rw [if_neg hlate, if_neg (mt hsame.mpr hlate)]
        have hspan := ceilMillis_ofSecs interval
        rw [runIn_sleep_bind, runIn_sleep_bind]
        refine ih (m + min interval (30 * 365 * 86400)) (hdrift.slept hspan) ?_ ?_
        · rw [World.clock_slept, hspan]
          omega
        · rw [World.clock_slept, hspan]
          omega
    intro m n w w' hdrift hclock hclock'
    rw [pollFrom_eq, pollFrom_eq]
    refine EndAlike.call (I := storeInterface T) hdrift.plane fun reply plane => ?_
    have hasked := hdrift.asked plane
    rw [decision_congr hdescription]
    cases decision config predicate reply with
    | none => exact hagain m hasked hclock hclock'
    | some o =>
      cases o with
      | returned answer => exact ⟨rfl, hasked⟩
      | panicked payload => exact ⟨rfl, hasked⟩

theorem runIn_waitFor (w : World σ) :
    (waitFor name config predicate).runIn (I := storeInterface T) answer w =
      (pollFrom name config predicate w.now countLimit).runIn (I := storeInterface T) answer w := by
  unfold waitFor
  exact runIn_now_bind _ _ w

/-- Waits that poll alike end alike. -/
theorem endAlike_waitFor (h : PollAlike config config') {n : Nat} {w w' : World σ}
    (hdrift : Drift n w w') :
    EndAlike (I := storeInterface T) answer n (waitFor name config predicate)
      (waitFor name config' predicate) w w' := by
  unfold EndAlike
  rw [runIn_waitFor, runIn_waitFor]
  exact endAlike_pollFrom h countLimit 0 hdrift rfl rfl

end Wait

end BuildTrial
