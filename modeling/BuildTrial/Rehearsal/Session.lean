import BuildTrial.Mutate
import BuildTrial.Rehearsal.Cluster
import BuildTrial.Scenario.Predicates

/-!
# Sessions on a store

A session makes requests of one store: single calls, mutations and waits. Besides its result, a
mutation tells how often it was applied, and a wait how often its predicate was asked and how long
it took. The verdicts of a wait can be scripted instead of being read off the snapshots.
-/

namespace BuildTrial.Rehearsal

/-- What the verdicts of a wait come from. -/
inductive Judge (kind : Kind) where
  | predicate (judge : kind.Model → Verdict)
  /-- One verdict for each snapshot; the last one repeats. -/
  | scripted (verdicts : List Verdict)

inductive Request (kind : Kind) where
  | call (call : StoreCall kind.Model)
  | mutate (name : String) (edits : List Edit) (retry : RetryConfig)
  /-- Wait with a limit, if there is one, on the time from now on. -/
  | wait (name : String) (config : WaitConfig) (limit : Option Duration) (judge : Judge kind)

/-- What a request comes back with. -/
inductive Response (kind : Kind) where
  | snapshot (snapshot : Versioned kind.Model)
  | snapshots (snapshots : List (Versioned kind.Model))
  | deleted
  | mutated (result : Except Error (Versioned kind.Model)) (mutations : Nat)
  | waited (result : Except Error (Versioned kind.Model)) (evaluations : Nat) (elapsed : Duration)

/-- Count the successful reads of a program. -/
def countReads {T α : Type} : StoreProgram T α → Nat → StoreProgram T (α × Nat)
  | .done a, n => .done (a, n)
  | .panic payload, _ => .panic payload
  | .ask (.call (.get name)) next, n =>
    .ask (.call (.get name)) fun reply =>
      countReads (next reply) (match reply with
        | .returned (.ok _) => n + 1
        | _ => n)
  | .ask query next, n => .ask query fun reply => countReads (next reply) n

/-- A wait for snapshots that come with a verdict, each verdict taken from a script. A wait makes no
call but `get`. -/
def withVerdicts {T α : Type} : StoreProgram (T × Verdict) α → List Verdict → StoreProgram T α
  | .done a, _ => .done a
  | .panic payload, _ => .panic payload
  | .ask (.call (.get name)) next, verdicts =>
    .ask (.call (.get name)) fun
      | .panicked payload => withVerdicts (next (.panicked payload)) verdicts
      | .returned (.error e) => withVerdicts (next (.returned (.error e))) verdicts
      | .returned (.ok snapshot) =>
        let verdict := verdicts.headD .notYet
        let later := if verdicts.length ≤ 1 then verdicts else verdicts.tail
        withVerdicts (next (.returned (.ok ⟨(snapshot.object, verdict), snapshot.version⟩))) later
  | .ask (.call .list) _, _ => .panic .untold
  | .ask (.call (.create _)) _, _ => .panic .untold
  | .ask (.call (.update ..)) _, _ => .panic .untold
  | .ask (.call (.delete _)) _, _ => .panic .untold
  | .ask (.sleep span) next, verdicts =>
    .ask (.sleep span) fun reply => withVerdicts (next reply) verdicts
  | .ask .now next, verdicts => .ask .now fun reply => withVerdicts (next reply) verdicts
  | .ask .jitter next, verdicts => .ask .jitter fun reply => withVerdicts (next reply) verdicts
  | .ask (.pick last) next, verdicts =>
    .ask (.pick last) fun reply => withVerdicts (next reply) verdicts

namespace Request

variable {kind : Kind}

/-- Make a single call. -/
def callProgram (call : StoreCall kind.Model) :
    StoreProgram kind.Model (Except Error (Response kind)) :=
  call.run.bind fun result => .done (result.map (answer call))
where
  answer : (call : StoreCall kind.Model) → call.Answer → Response kind
    | .get _, snapshot => .snapshot snapshot
    | .list, snapshots => .snapshots snapshots
    | .create _, snapshot => .snapshot snapshot
    | .update .., snapshot => .snapshot snapshot
    | .delete _, () => .deleted

/-- Wait with verdicts from the judge. -/
def waitProgram (name : String) (config : WaitConfig) :
    Judge kind → StoreProgram kind.Model (Except Error (Versioned kind.Model))
  | .predicate judge => waitFor name config judge
  | .scripted verdicts =>
    (withVerdicts (waitFor name config Prod.snd) verdicts).bind fun result =>
      .done (result.map fun snapshot => ⟨snapshot.object.1, snapshot.version⟩)

/-- The program that makes a request. -/
def program : Request kind → StoreProgram kind.Model (Except Error (Response kind))
  | .call c => callProgram c
  | .mutate name edits retry =>
    (countReads (BuildTrial.mutate name retry (Edit.mutation kind edits)) 0).bind
      fun (result, mutations) => .done (.ok (.mutated result mutations))
  | .wait name config limit judge =>
    Program.now.bind fun start =>
      let config := match limit with
        | some span => config.boundedBy ⟨start.sinceStart + span⟩ start
        | none => config
      (countReads (waitProgram name config judge) 0).bind fun (result, evaluations) =>
        Program.now.bind fun ended =>
          .done (.ok (.waited result evaluations (ended.since start)))

end Request

/-- A store under rehearsal and what was called on it. -/
structure Bench (kind : Kind) where
  store : Store kind
  log : Log := []

namespace Bench

variable {kind : Kind}

def serve (call : StoreCall kind.Model) (b : Bench kind) : Attempted call.Answer × Bench kind :=
  let (reply, store, log) := b.store.serve call b.log
  (reply, { store, log })

def request (r : Request kind) (w : World (Bench kind)) :
    Attempted (Response kind) × World (Bench kind) :=
  r.program.runIn serve w

/-- Change the store from outside. -/
def adjust (w : World (Bench kind))
    (change : MemoryStore kind.Model (List Rule) → MemoryStore kind.Model (List Rule)) :
    World (Bench kind) :=
  { w with plane :=
      { w.plane with store := { w.plane.store with memory := change w.plane.store.memory } } }

end Bench

end BuildTrial.Rehearsal
