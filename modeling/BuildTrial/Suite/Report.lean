import BuildTrial.Decimal.Shortest
import BuildTrial.Scenario
import BuildTrial.Text.Case
import BuildTrial.Text.Cut

/-!
# The report of a suite

One record for each scenario that was run, the summary printed at the end, and whether the suite
passed.
-/

namespace BuildTrial

/-- How one scenario ended. -/
structure ScenarioRecord where
  name : String
  passed : Bool
  /-- The time it took, teardown included. -/
  duration : Duration
  phase : Option Phase := none
  errorKind : Option ErrorKind := none
  error : Option String := none
  /-- The image that was built. -/
  image : Option String := none
deriving DecidableEq, Repr

structure SuiteReport where
  suite : String
  /-- In the order in which the scenarios were run. -/
  results : List ScenarioRecord := []
deriving DecidableEq, Repr

/-- Some scenarios of a suite failed. -/
structure SuiteFailed where
  suite : String
  failed : List String
deriving DecidableEq, Repr

def SuiteFailed.message (e : SuiteFailed) : String :=
  s!"{e.failed.length} scenario(s) failed in {e.suite}: " ++ ", ".intercalate e.failed

namespace ScenarioRecord

/-- The record of a run that took the given time. -/
def ofResult (name : String) (duration : Duration) :
    Except ScenarioFailure ScenarioOutcome → ScenarioRecord
  | .ok outcome => { name, passed := true, duration, image := some outcome.image }
  | .error failure =>
    { name, passed := false, duration
      phase := some failure.phase
      errorKind := some failure.source.kind
      error := some failure.source.message }

/-- How much of an error a summary shows, in characters. -/
def errorWidth : Nat := 200

/-- Seconds to one decimal place. -/
def secondsText (d : Duration) : String := d.toSeconds.fixed 1

def lines (r : ScenarioRecord) : List String :=
  let tag := if r.passed then "PASS" else "FAIL"
  let head := s!"  {tag}  " ++ Text.padRight 40 r.name ++ s!" {secondsText r.duration}s"
  let place := match r.phase, r.errorKind with
    | some phase, some kind => [s!"        -> {kind.text} in {phase.text}"]
    | _, _ => []
  let error := match r.error with
    | some error => ["        -> " ++ String.ofList (error.toList.take errorWidth)]
    | none => []
  head :: place ++ error

end ScenarioRecord

namespace SuiteReport

def record (r : SuiteReport) (result : ScenarioRecord) : SuiteReport :=
  { r with results := r.results ++ [result] }

/-- Run a scenario and record how it ended. -/
def run (r : SuiteReport) (options : ScenarioOptions) :
    PlaneProgram (SuiteReport × Option ScenarioOutcome) := do
  let started ← Program.now
  let result ← Scenario.run options
  let ended ← Program.now
  return (r.record (.ofResult options.name (ended.since started) result), result.toOption)

def doubleRule : String := "========================================"

def singleRule : String := "----------------------------------------"

/-- The names of the scenarios that failed. -/
def failedNames (r : SuiteReport) : List String :=
  (r.results.filter fun result => !result.passed).map (·.name)

def summary (r : SuiteReport) : List String :=
  let total := Duration.sum (r.results.map (·.duration))
  let failed := r.failedNames.length
  [doubleRule, "  " ++ Text.upper r.suite, doubleRule] ++
    r.results.flatMap ScenarioRecord.lines ++
    [singleRule,
      s!"  {r.results.length - failed} passed, {failed} failed " ++
        s!"({ScenarioRecord.secondsText total}s total)",
      doubleRule]

/-- The suite passed unless a scenario failed. -/
def finish (r : SuiteReport) : Except SuiteFailed Unit :=
  if r.failedNames.isEmpty then .ok () else .error ⟨r.suite, r.failedNames⟩

end SuiteReport

end BuildTrial
