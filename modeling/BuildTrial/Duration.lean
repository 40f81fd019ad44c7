/-!
# Durations and instants

A `Duration` is an exact number of nanoseconds and an `Instant` is how long the clock has been
running. Both are unbounded, so sums are exact and a comparison of budgets never meets an overflow.
`Duration.text` is the one spelling of a duration that error messages and schedules use: the largest
unit whose whole part is not zero, then the exact fraction without trailing zeros.
-/

-- A power of a number is the core library's in every module, whatever else the module imports.
attribute [instance (high)] instPowNat
attribute [default_instance high + 1] instPowNat

namespace BuildTrial

/-- A span of time in whole nanoseconds. -/
structure Duration where
  nanos : Nat
deriving DecidableEq, Repr, Inhabited

namespace Duration

def nanosPerSec : Nat := 1000000000

def nanosPerMilli : Nat := 1000000

def zero : Duration := ⟨0⟩

def ofSecs (secs : Nat) : Duration := ⟨secs * nanosPerSec⟩

def ofMillis (millis : Nat) : Duration := ⟨millis * nanosPerMilli⟩

/-- Whole seconds, rounded down. -/
def secs (d : Duration) : Nat := d.nanos / nanosPerSec

/-- Nanoseconds beyond the whole seconds. -/
def subsecNanos (d : Duration) : Nat := d.nanos % nanosPerSec

/-- Whole milliseconds, rounded up: a timer never fires early. -/
def ceilMillis (d : Duration) : Nat := (d.nanos + (nanosPerMilli - 1)) / nanosPerMilli

instance : Add Duration := ⟨fun a b => ⟨a.nanos + b.nanos⟩⟩

instance : LT Duration := ⟨fun a b => a.nanos < b.nanos⟩

instance : LE Duration := ⟨fun a b => a.nanos ≤ b.nanos⟩

instance (a b : Duration) : Decidable (a < b) := inferInstanceAs (Decidable (a.nanos < b.nanos))

instance (a b : Duration) : Decidable (a ≤ b) := inferInstanceAs (Decidable (a.nanos ≤ b.nanos))

instance : Min Duration := ⟨fun a b => if a ≤ b then a else b⟩

def sum (ds : List Duration) : Duration := ds.foldl (· + ·) zero

/-- `digits` with zeros put in front up to `width` characters. -/
def padZeros (width : Nat) (digits : String) : String :=
  String.ofList (List.replicate (width - digits.length) '0') ++ digits

/-- The characters of `cs` without the zeros it ends in. -/
def dropTrailingZeros (cs : List Char) : List Char :=
  (cs.reverse.dropWhile (· = '0')).reverse

/-- A number of units, given in a smaller unit of which `10 ^ places` make one: whole part, then the
exact fraction with trailing zeros dropped. -/
def decimal (places value : Nat) : String :=
  let fraction := dropTrailingZeros (padZeros places (toString (value % 10 ^ places))).toList
  toString (value / 10 ^ places) ++ (if fraction.isEmpty then "" else "." ++ String.ofList fraction)

/-- The text of a duration in the largest of `s`, `ms`, `µs` and `ns` that has a non-zero whole
part; nothing at all is `0ns`. -/
def text (d : Duration) : String :=
  if nanosPerSec ≤ d.nanos then decimal 9 d.nanos ++ "s"
  else if nanosPerMilli ≤ d.nanos then decimal 6 d.nanos ++ "ms"
  else if 1000 ≤ d.nanos then decimal 3 d.nanos ++ "µs"
  else toString d.nanos ++ "ns"

@[simp] theorem nanos_add (a b : Duration) : (a + b).nanos = a.nanos + b.nanos := rfl

theorem le_def {a b : Duration} : a ≤ b ↔ a.nanos ≤ b.nanos := Iff.rfl

theorem lt_def {a b : Duration} : a < b ↔ a.nanos < b.nanos := Iff.rfl

@[simp] theorem nanos_min (a b : Duration) : (min a b).nanos = min a.nanos b.nanos := by
  show (if a ≤ b then a else b).nanos = _
  by_cases h : a.nanos ≤ b.nanos
  · rw [if_pos (le_def.2 h), Nat.min_eq_left h]
  · rw [if_neg (mt le_def.1 h), Nat.min_eq_right (Nat.le_of_not_le h)]

/-- Rounding up never shortens a sleep. -/
theorem nanos_le_ceilMillis (d : Duration) : d.nanos ≤ d.ceilMillis * nanosPerMilli := by
  show d.nanos ≤ (d.nanos + (1000000 - 1)) / 1000000 * 1000000
  omega

@[simp] theorem ceilMillis_ofMillis (n : Nat) : (ofMillis n).ceilMillis = n := by
  show (n * 1000000 + (1000000 - 1)) / 1000000 = n
  omega

end Duration

/-- A reading of the clock: the time since it started. -/
structure Instant where
  sinceStart : Duration
deriving DecidableEq, Repr, Inhabited

namespace Instant

def ofMillis (millis : Nat) : Instant := ⟨.ofMillis millis⟩

/-- The time from `earlier` to `later`; nothing if they are the other way round. -/
def since (later earlier : Instant) : Duration :=
  ⟨later.sinceStart.nanos - earlier.sinceStart.nanos⟩

/-- The last second that the clock can show. -/
def lastSecond : Nat := 2 ^ 63 - 1

/-- The instant `d` after `t`, if the clock can show it. -/
def after? (t : Instant) (d : Duration) : Option Instant :=
  let moment := t.sinceStart + d
  if moment.secs ≤ lastSecond then some ⟨moment⟩ else none

theorem after?_eq_some_iff {t i : Instant} {d : Duration} :
    t.after? d = some i ↔ (t.sinceStart + d).secs ≤ lastSecond ∧ i = ⟨t.sinceStart + d⟩ := by
  unfold after?
  by_cases h : (t.sinceStart + d).secs ≤ lastSecond
  · simp [h, eq_comm]
  · simp [h]

/-- Whole seconds after a number of milliseconds. -/
theorem eq_ofMillis_of_after? {millis secs : Nat} {i : Instant}
    (h : (ofMillis millis).after? (.ofSecs secs) = some i) : i = ofMillis (millis + 1000 * secs) := by
  obtain ⟨-, rfl⟩ := after?_eq_some_iff.mp h
  refine congrArg Instant.mk (congrArg Duration.mk ?_)
  simp only [ofMillis, Duration.ofMillis, Duration.ofSecs, Duration.nanosPerMilli,
    Duration.nanosPerSec]
  omega

end Instant

end BuildTrial
