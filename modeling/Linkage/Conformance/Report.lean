import Linkage.Conformance.Outcome
import Linkage.Json.Value

/-!
# Reports

A report is a list of outcomes. It counts them by status, words the failed ones in a line each, and
writes itself as a JSON document in which the fields of every object are in alphabetical order.
-/

namespace Linkage

/-- Outcomes in the order in which they came. -/
structure Report where
  outcomes : List Outcome
  deriving DecidableEq, Repr, Inhabited

/-- The number of outcomes, in all and by status. -/
structure Summary where
  total : Nat
  passed : Nat
  mismatched : Nat
  resolutionFailures : Nat
  invocationFailures : Nat
  deriving DecidableEq, Repr, Inhabited

namespace Report

/-- The report without outcomes. -/
def empty : Report := ⟨[]⟩

/-- Add an outcome at the end. -/
def add (report : Report) (outcome : Outcome) : Report := ⟨report.outcomes ++ [outcome]⟩

variable (report : Report)

/-- The number of outcomes of a status. -/
def countOf (status : Status) : Nat := report.outcomes.countP fun outcome => outcome.status = status

/-- The counts of a report. -/
def summary : Summary where
  total := report.outcomes.length
  passed := report.countOf .passed
  mismatched := report.countOf .mismatch
  resolutionFailures := report.countOf .resolutionFailure
  invocationFailures := report.countOf .invocationFailure

/-- Whether nothing failed. -/
def allPassed : Bool := report.outcomes.all Outcome.passed

/-- The outcomes that did not pass. -/
def failures : List Outcome := report.outcomes.filter fun outcome => !outcome.passed

end Report

/-- The line for an outcome that did not pass. -/
def Outcome.failureLine (outcome : Outcome) : String :=
  let head := outcome.scenario.text ++ ": " ++ outcome.status.word
  match outcome.failure with
  | some failure => head ++ " [" ++ failure.code ++ "] " ++ failure.message
  | none => head

/-- A line for every outcome that did not pass. -/
def Report.failureLines (report : Report) : List String := report.failures.map Outcome.failureLine

/-- The name of a status in a JSON document. -/
def Status.jsonName : Status → String
  | passed => "passed"
  | mismatch => "mismatch"
  | resolutionFailure => "resolutionFailure"
  | invocationFailure => "invocationFailure"

/-- A stage as JSON. -/
def Stage.json : Stage → Json
  | configured => .ofText "Configured"
  | loaderBuilt => .ofText "LoaderBuilt"
  | resolved => .ofText "Resolved"
  | invoked => .ofText "Invoked"
  | verified => .ofText "Verified"
  | passed => .ofText "Passed"
  | failed status code => .object
      [("Failed", .object [("code", .ofText code), ("status", .ofText status.jsonName)])]

/-- A failure as JSON. -/
def Failure.json (failure : Failure) : Json := .object
  [("code", .ofText failure.code), ("message", .ofText failure.message)]

/-- A scenario as JSON in a report. -/
def Scenario.reportJson (scenario : Scenario) : Json := .object
  [("collision", .boolean scenario.collision),
   ("dispatch", .ofText scenario.dispatch.word),
   ("has_parent", .boolean scenario.hasParent),
   ("loader_kind", .ofText scenario.loader.word)]

/-- An outcome as JSON. -/
def Outcome.json (outcome : Outcome) : Json := .object
  [("actual_owner", .ofText? outcome.actualOwner),
   ("arguments_matched", .boolean outcome.argumentsMatched),
   ("config", outcome.scenario.reportJson),
   ("expected_owner", .ofText outcome.expectedOwner),
   ("failure", (outcome.failure.map Failure.json).getD .null),
   ("status", .ofText outcome.status.jsonName),
   ("trace", .array (outcome.trace.map Stage.json))]

/-- Counts as JSON. -/
def Summary.json (summary : Summary) : Json := .object
  [("invocation_failures", .ofNat summary.invocationFailures),
   ("mismatched", .ofNat summary.mismatched),
   ("passed", .ofNat summary.passed),
   ("resolution_failures", .ofNat summary.resolutionFailures),
   ("total", .ofNat summary.total)]

/-- The report as a JSON document. -/
def Report.document (report : Report) : String :=
  (Json.object
    [("results", .array (report.outcomes.map Outcome.json)),
     ("summary", report.summary.json)]).pretty

end Linkage
