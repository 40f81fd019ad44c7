import BuildTrial.Duration

/-!
# Errors and panics

An `Error` is a cause that a caller can tell apart from the others; `Error.message` is its wording
and `Error.kind` the category that reports print. A `Panic` is not an error: it unwinds the program
that raised it until something catches it, and what catches it turns it into an `Error.internal`
(`Error.ofPanic`).
-/

namespace BuildTrial

/-- What a panicking step threw. -/
inductive Panic where
  | text (message : String)
  /-- A payload that is no text. -/
  | untold
deriving DecidableEq, Repr, Inhabited

def Panic.message : Panic → String
  | .text message => message
  | .untold => "unknown panic"

/-- How a step ended: with an answer or by unwinding. -/
inductive Outcome (α : Type) where
  | returned (answer : α)
  | panicked (panic : Panic)
deriving DecidableEq, Repr

/-- Why an operation on the control plane, or a wait for it, did not succeed. -/
inductive Error where
  /-- The resource changed since it was read. -/
  | conflict (resource name message : String)
  /-- Every allowed attempt at an update met a conflict. -/
  | conflictExhausted (resource name : String) (attempts : Nat)
  | notFound (resource name : String)
  | alreadyExists (resource name : String)
  /-- A wait used up its budget. -/
  | timeout (description : String) (waited : Duration)
  /-- A wait saw a state from which its goal can never be reached. -/
  | unrecoverable (description reason : String)
  /-- Any other failure of a control plane call; `retryable` if repeating it may succeed. -/
  | controlPlane (context message : String) (retryable : Bool)
  /-- A command on a node failed. -/
  | exec (node message : String)
  | validation (message : String) (field : Option String)
  /-- A resource and its stored form could not be turned into each other. -/
  | serialization (message : String) (resource : Option String)
  /-- Some teardown actions failed. -/
  | cleanupFailed (failed : List String)
  | internal (context message : String)
deriving DecidableEq, Repr, Inhabited

/-- The category of an error, as reports print it. -/
inductive ErrorKind where
  | conflict
  | conflictExhausted
  | notFound
  | alreadyExists
  | timeout
  | unrecoverable
  | controlPlane
  | exec
  | validation
  | serialization
  | cleanup
  | internal
deriving DecidableEq, Repr

def ErrorKind.text : ErrorKind → String
  | .conflict => "Conflict"
  | .conflictExhausted => "ConflictExhausted"
  | .notFound => "NotFound"
  | .alreadyExists => "AlreadyExists"
  | .timeout => "Timeout"
  | .unrecoverable => "UnrecoverableState"
  | .controlPlane => "ControlPlane"
  | .exec => "Exec"
  | .validation => "Validation"
  | .serialization => "Serialization"
  | .cleanup => "Cleanup"
  | .internal => "Internal"

def ErrorKind.all : List ErrorKind :=
  [.conflict, .conflictExhausted, .notFound, .alreadyExists, .timeout, .unrecoverable,
    .controlPlane, .exec, .validation, .serialization, .cleanup, .internal]

namespace Error

def kind : Error → ErrorKind
  | .conflict .. => .conflict
  | .conflictExhausted .. => .conflictExhausted
  | .notFound .. => .notFound
  | .alreadyExists .. => .alreadyExists
  | .timeout .. => .timeout
  | .unrecoverable .. => .unrecoverable
  | .controlPlane .. => .controlPlane
  | .exec .. => .exec
  | .validation .. => .validation
  | .serialization .. => .serialization
  | .cleanupFailed .. => .cleanup
  | .internal .. => .internal

def message : Error → String
  | .conflict resource name message => s!"conflict updating {resource} {name}: {message}"
  | .conflictExhausted resource name attempts =>
    s!"gave up updating {resource} {name} after {attempts} conflicting attempts"
  | .notFound resource name => s!"{resource} {name} not found"
  | .alreadyExists resource name => s!"{resource} {name} already exists"
  | .timeout description waited => s!"timed out after {waited.text} waiting for {description}"
  | .unrecoverable description reason =>
    s!"unrecoverable state while waiting for {description}: {reason}"
  | .controlPlane context message _ => s!"control plane error [{context}]: {message}"
  | .exec node message => s!"exec on node {node} failed: {message}"
  | .validation message _ => s!"validation error: {message}"
  | .serialization message _ => s!"serialization error: {message}"
  | .cleanupFailed failed => "cleanup failed for: " ++ ", ".intercalate failed
  | .internal context message => s!"internal error [{context}]: {message}"

def isConflict : Error → Bool
  | .conflict .. => true
  | _ => false

def isNotFound : Error → Bool
  | .notFound .. => true
  | _ => false

/-- Whether repeating the failed call may succeed. Only control plane calls qualify: a conflict
needs a fresh read first. -/
def isRetryable : Error → Bool
  | .controlPlane _ _ retryable => retryable
  | _ => false

/-- An invalid value of the named field. -/
def invalid (field message : String) : Error := .validation message (some field)

/-- A caught panic as an error, with the place where it was caught. -/
def ofPanic (context : String) (panic : Panic) : Error :=
  .internal context ("PANIC: " ++ panic.message)

@[simp] theorem isConflict_conflict (r n m : String) : (conflict r n m).isConflict = true := rfl

@[simp] theorem isNotFound_notFound (r n : String) : (notFound r n).isNotFound = true := rfl

/-- No error is both: what a fresh read may cure, a plain repetition does not. -/
theorem isRetryable_of_isConflict {e : Error} (h : e.isConflict) : e.isRetryable = false := by
  cases e <;> simp_all [isConflict, isRetryable]

end Error

end BuildTrial
