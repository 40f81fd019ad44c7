import BuildTrial.Program
import BuildTrial.Binary64

/-!
# Programs that take time and chances

`Interface.timed I` adds to the questions of `I` the ones that every waiting or retrying program
needs: sleeping, reading the clock, a random factor, a random choice. A `World` answers them: its
clock counts whole milliseconds and moves only in sleeps, which end at the first millisecond that is
not before their end, and after thirty years at the latest; its chances are two fixed sequences, of
which the program takes one entry after the other.
-/

namespace BuildTrial

/-- A question of an interface, or one about time and chance. -/
inductive Timed (Query : Type) where
  | call (query : Query)
  | sleep (span : Duration)
  | now
  /-- A factor to stretch a delay by. -/
  | jitter
  /-- One of the numbers up to `last`. -/
  | pick (last : Nat)

/-- The questions of `I` together with those about time and chance. -/
@[reducible] def Interface.timed (I : Interface) : Interface where
  Query := Timed I.Query
  Reply
    | .call query => I.Reply query
    | .sleep _ => Unit
    | .now => Instant
    | .jitter => Jitter
    | .pick last => Fin (last + 1)

/-- The surroundings of a timed program: those of the interface, a clock, and chances. -/
structure World (σ : Type) where
  plane : σ
  /-- Milliseconds since the clock started. -/
  clock : Nat
  jitter : Nat → Jitter
  pick : Nat → Nat
  /-- How many random factors were taken. -/
  jitters : Nat
  /-- How many random choices were made. -/
  picks : Nat

namespace World

variable {σ : Type} {I : Interface}

/-- A world at the start of the clock, in which no delay is stretched and the first choice is always
taken. -/
def start (plane : σ) : World σ :=
  { plane, clock := 0, jitter := fun _ => .none, pick := fun _ => 0, jitters := 0, picks := 0 }

def now (w : World σ) : Instant := .ofMillis w.clock

/-- The longest that a sleep lasts: thirty years of 365 days. -/
def longestSleep : Duration := .ofSecs (30 * 365 * 86400)

/-- The world after a sleep. -/
def slept (w : World σ) (span : Duration) : World σ :=
  { w with clock := w.clock + (min span longestSleep).ceilMillis }

/-- Reply to a timed question, with the given replies to the others. -/
def reply (answer : (q : I.Query) → σ → I.Reply q × σ) :
    (q : I.timed.Query) → World σ → I.timed.Reply q × World σ
  | .call query, w =>
    let (r, plane) := answer query w.plane
    (r, { w with plane })
  | .sleep span, w => ((), w.slept span)
  | .now, w => (w.now, w)
  | .jitter, w => (w.jitter w.jitters, { w with jitters := w.jitters + 1 })
  | .pick last, w => (Fin.ofNat (last + 1) (w.pick w.picks), { w with picks := w.picks + 1 })

end World

namespace Program

variable {I J : Interface} {α σ : Type}

/-- Run a timed program in a world. -/
def runIn (answer : (q : I.Query) → σ → I.Reply q × σ) (p : Program I.timed α) (w : World σ) :
    Outcome α × World σ :=
  p.run (World.reply answer) w

def sleep (span : Duration) : Program I.timed Unit := .ask (.sleep span) .done

def now : Program I.timed Instant := .ask .now .done

def jitter : Program I.timed Jitter := .ask .jitter .done

/-- Choose a member of a list at random. -/
def choose {β : Type} : List β → Program I.timed (Option β)
  | [] => .done none
  | x :: xs => .ask (.pick xs.length) fun i => .done ((x :: xs)[i.val]?)

/-- Answer the questions of `I` by questions of `J`, and those about time and chance by
themselves. -/
def overInterface (answer : (q : I.Query) → Program J.timed (I.Reply q)) :
    (q : I.timed.Query) → Program J.timed (I.timed.Reply q)
  | .call query => answer query
  | .sleep span => .ask (.sleep span) .done
  | .now => .ask .now .done
  | .jitter => .ask .jitter .done
  | .pick last => .ask (.pick last) .done

/-- `p` with its questions to `I` answered by a program over `J`. -/
def within (answer : (q : I.Query) → Program J.timed (I.Reply q)) (p : Program I.timed α) :
    Program J.timed α :=
  p.interpret (overInterface answer)

end Program

end BuildTrial
