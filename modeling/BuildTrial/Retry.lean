import BuildTrial.Decimal.Shortest
import BuildTrial.Timed

/-!
# Retrying with backoff

An operation is repeated while its error is one that a repetition may cure, up to a limit on the
attempts, with a sleep between two attempts. The sleeps follow a schedule: the delay, stretched by a
random factor, and then multiplied for the next time up to a greatest delay.

Attempts are counted in 32 bits. The count can only run out with no limit on the attempts, and then
the program panics, so every retry is finite.
-/

namespace BuildTrial

structure RetryConfig where
  /-- How often to try; no limit if zero. -/
  maxAttempts : Nat
  /-- The delay after the first attempt. -/
  initialDelay : Duration
  maxDelay : Duration
  multiplier : Binary64
deriving DecidableEq

namespace RetryConfig

/-- A limit on the attempts, and otherwise delays that double from 0.1 to 30 seconds. -/
def withMaxAttempts (maxAttempts : Nat) : RetryConfig :=
  ⟨maxAttempts, .ofMillis 100, .ofSecs 30, 2⟩

/-- Delays that double, without a limit on the attempts. -/
def endless : RetryConfig := withMaxAttempts 0

/-- For conflicting updates: five attempts, 10 ms apart. A conflict is over as soon as the competing
writer has committed, so longer delays would gain nothing. -/
def forConflicts : RetryConfig := ⟨5, .ofMillis 10, .ofMillis 10, 1⟩

/-- Whether the attempt with the given number, from one, is the last allowed. -/
def isExhausted (c : RetryConfig) (attempt : Nat) : Bool :=
  0 < c.maxAttempts && c.maxAttempts ≤ attempt

end RetryConfig

/-- The delays of a retry: what comes next and how it grows. -/
structure Backoff where
  delay : Duration
  maxDelay : Duration
  multiplier : Binary64
deriving DecidableEq

namespace Backoff

def ofConfig (c : RetryConfig) : Backoff := ⟨c.initialDelay, c.maxDelay, c.multiplier⟩

def text (b : Backoff) : String :=
  s!"Backoff \x7b delay: {b.delay.text}, max_delay: {b.maxDelay.text}, multiplier: " ++
    b.multiplier.scheduleText ++ " \x7d"

/-- The delay stretched by a random factor. -/
def stretched (b : Backoff) (jitter : Jitter) : Except Duration.SecondsError Duration :=
  Duration.ofSeconds (b.delay.toSeconds * jitter.factor)

/-- The schedule after one more delay: multiplied, but not beyond the greatest delay. -/
def advanced (b : Backoff) : Except Duration.SecondsError Backoff := do
  let delay ← Duration.ofSeconds (min (b.delay.toSeconds * b.multiplier) b.maxDelay.toSeconds)
  return { b with delay }

/-- The next delay and the schedule after it. A number of seconds that is no duration is a fault of
the schedule and panics. -/
def next (b : Backoff) (jitter : Jitter) : Outcome (Duration × Backoff) :=
  match b.stretched jitter with
  | .error e => .panicked (.text e.message)
  | .ok delay =>
    match b.advanced with
    | .error e => .panicked (.text e.message)
    | .ok after => .returned (delay, after)

/-- Sleep for the next delay and answer with the schedule after it. -/
def pause {I : Interface} (b : Backoff) : Program I.timed Backoff := do
  let jitter ← Program.jitter
  let (delay, after) ← Program.ofOutcome (b.next jitter)
  Program.sleep delay
  return after

end Backoff

/-- How many attempts or polls can be counted. -/
def countLimit : Nat := 2 ^ 32 - 1

/-- What happens when a count runs out. -/
def countOverflow : Panic := .text "attempt to add with overflow"

namespace Retry

variable {I : Interface} {ε α : Type}

/-- The attempts from number `attempt` on, of which `left` can still be counted. -/
def attemptFrom (config : RetryConfig) (retryable : ε → Bool)
    (operation : Program I.timed (Except ε α)) :
    (left attempt : Nat) → Backoff → Program I.timed (Except ε α)
  | 0, _, _ => .panic countOverflow
  | left + 1, attempt, backoff =>
    operation.bind fun
      | .ok a => .done (.ok a)
      | .error e =>
        if !retryable e || config.isExhausted attempt then .done (.error e)
        else backoff.pause.bind fun backoff =>
          attemptFrom config retryable operation left (attempt + 1) backoff

end Retry

/-- Repeat an operation until it succeeds, fails with an error that is not retryable, or has used up
its attempts; the answer is that of the last attempt. -/
def retry {I : Interface} {ε α : Type} (config : RetryConfig) (retryable : ε → Bool)
    (operation : Program I.timed (Except ε α)) : Program I.timed (Except ε α) :=
  Retry.attemptFrom config retryable operation countLimit 1 (.ofConfig config)

end BuildTrial
