import BuildTrial.Error

/-!
# Programs that ask their surroundings

A `Program I α` is what a piece of the trial does, written as data: it ends with an answer, it
unwinds with a panic, or it asks a question of the interface `I` and goes on with whatever reply it
gets. The same program can be run against any surroundings (`Program.run`), or with its questions
answered by another program (`Program.interpret`). Every program is finite along every sequence of
replies, so each of these is structural recursion.
-/

namespace BuildTrial

/-- The questions that a program may ask, and the type of the replies to each. -/
structure Interface where
  Query : Type
  Reply : Query → Type

inductive Program (I : Interface) (α : Type) : Type where
  | done (answer : α)
  | panic (payload : Panic)
  | ask (query : I.Query) (next : I.Reply query → Program I α)

namespace Program

variable {I J : Interface} {α β γ : Type}

/-- Run `p`, then what its answer says; a panic skips it. -/
def bind : Program I α → (α → Program I β) → Program I β
  | .done a, f => f a
  | .panic payload, _ => .panic payload
  | .ask query next, f => .ask query fun reply => (next reply).bind f

instance : Monad (Program I) where
  pure := .done
  bind := bind

def query (q : I.Query) : Program I (I.Reply q) := .ask q .done

/-- Continue with an outcome that is already known. -/
def ofOutcome : Outcome α → Program I α
  | .returned a => .done a
  | .panicked payload => .panic payload

/-- The program that catches a panic of `p` and answers with how `p` ended. -/
def attempt : Program I α → Program I (Outcome α)
  | .done a => .done (.returned a)
  | .panic payload => .done (.panicked payload)
  | .ask query next => .ask query fun reply => (next reply).attempt

/-- Answer each question of `p` by a program over another interface. -/
def interpret (answer : (q : I.Query) → Program J (I.Reply q)) : Program I α → Program J α
  | .done a => .done a
  | .panic payload => .panic payload
  | .ask query next => (answer query).bind fun reply => (next reply).interpret answer

/-- Run a program against surroundings with a state of their own. -/
def run {σ : Type} (reply : (q : I.Query) → σ → I.Reply q × σ) : Program I α → σ → Outcome α × σ
  | .done a, s => (.returned a, s)
  | .panic payload, s => (.panicked payload, s)
  | .ask query next, s =>
    let (r, s') := reply query s
    (next r).run reply s'

@[simp] theorem pure_eq (a : α) : (pure a : Program I α) = .done a := rfl

@[simp] theorem bind_eq (p : Program I α) (f : α → Program I β) : (p >>= f) = p.bind f := rfl

@[simp] theorem bind_done (p : Program I α) : p.bind .done = p := by
  induction p with
  | done a => rfl
  | panic payload => rfl
  | ask query next ih => simp only [bind, ih]

theorem bind_assoc (p : Program I α) (f : α → Program I β) (g : β → Program I γ) :
    (p.bind f).bind g = p.bind fun a => (f a).bind g := by
  induction p with
  | done a => rfl
  | panic payload => rfl
  | ask query next ih => simp only [bind, ih]

instance : LawfulMonad (Program I) :=
  LawfulMonad.mk' (Program I) bind_done (fun _ _ => rfl) bind_assoc

/-- Running a sequence runs its parts one after the other, in the surroundings the first part left
behind. -/
theorem run_bind {σ : Type} (reply : (q : I.Query) → σ → I.Reply q × σ) (p : Program I α)
    (f : α → Program I β) (s : σ) :
    (p.bind f).run reply s = match p.run reply s with
      | (.returned a, s') => (f a).run reply s'
      | (.panicked payload, s') => (.panicked payload, s') := by
  induction p generalizing s with
  | done a => rfl
  | panic payload => rfl
  | ask query next ih => simp only [bind, run, ih]

/-- Catching a panic changes what is answered, not what is asked. -/
theorem run_attempt {σ : Type} (reply : (q : I.Query) → σ → I.Reply q × σ) (p : Program I α)
    (s : σ) : p.attempt.run reply s = (.returned (p.run reply s).1, (p.run reply s).2) := by
  induction p generalizing s with
  | done a => rfl
  | panic payload => rfl
  | ask query next ih => simp only [attempt, run, ih]

end Program

/-- A program whose answer may be an error. -/
abbrev Task (I : Interface) (α : Type) : Type := ExceptT Error (Program I) α

/-- What a call of the control plane comes back with: an answer or an error, unless the call itself
panics. -/
abbrev Attempted (α : Type) : Type := Outcome (Except Error α)

namespace Program

/-- Ask a question whose reply is the outcome of a call; a panic of the call unwinds the asker. -/
def call {I : Interface} {α : Type} (q : I.Query) (read : I.Reply q → Attempted α) :
    Program I (Except Error α) :=
  .ask q fun reply => ofOutcome (read reply)

end Program

end BuildTrial
