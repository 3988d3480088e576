import Linkage.Conformance.Plan
import Linkage.Conformance.Verdict

/-!
# Outcomes

A scenario goes through stages: its namespace is built, the member is resolved, it is invoked, and
the answer is verified. Its course says where it stopped and why, and everything else in its
outcome is read off the course.
-/

namespace Linkage

/-- A stage of a scenario. The last two are final. -/
inductive Stage where
  | configured | loaderBuilt | resolved | invoked | verified
  | passed
  | failed (status : Status) (code : String)
  deriving DecidableEq, Repr, Inhabited

namespace Stage

/-- Whether no stage follows. -/
def isFinal : Stage → Bool
  | passed | failed _ _ => true
  | _ => false

/-- The words for a stage. -/
def text : Stage → String
  | configured => "configured"
  | loaderBuilt => "loader-built"
  | resolved => "resolved"
  | invoked => "invoked"
  | verified => "verified"
  | passed => "passed"
  | failed status code => "failed (" ++ status.word ++ ", " ++ code ++ ")"

end Stage

/-- How far a scenario came. -/
inductive Course where
  /-- The namespace could not be built. -/
  | unbuilt (error : PayloadError)
  /-- The member could not be bound. -/
  | unresolved (error : BindingError)
  /-- The call failed. -/
  | uninvoked (error : CallError)
  /-- The call was answered; the check may have failed. -/
  | answered (verdict : Verdict) (check : Except Failure Unit)

/-- What came of a scenario. -/
structure Outcome where
  scenario : Scenario
  expectedOwner : String
  actualOwner : Option String
  argumentsMatched : Bool
  status : Status
  failure : Option Failure
  /-- The stages the scenario went through. -/
  trace : List Stage
  deriving DecidableEq, Repr, Inhabited

namespace Outcome

/-- Whether the scenario passed. -/
def passed (outcome : Outcome) : Bool := outcome.status = .passed

/-- The code of the failure, if there is one. -/
def code? (outcome : Outcome) : Option String := outcome.failure.map Failure.code

end Outcome

namespace Course

/-- Why a scenario failed, if it did. -/
def failure? : Course → Option Failure
  | unbuilt error => some (.payload error)
  | unresolved error => some (.binding error)
  | uninvoked error => some (.call error)
  | answered _ (.error failure) => some failure
  | answered _ (.ok ()) => none

/-- The stages gone through before the final one. -/
def stages : Course → List Stage
  | unbuilt _ => [.configured]
  | unresolved _ => [.configured, .loaderBuilt]
  | uninvoked _ => [.configured, .loaderBuilt, .resolved]
  | answered _ (.error _) => [.configured, .loaderBuilt, .resolved, .invoked]
  | answered _ (.ok ()) => [.configured, .loaderBuilt, .resolved, .invoked, .verified]

/-- The verdict, if the call was answered. -/
def verdict? : Course → Option Verdict
  | answered verdict _ => some verdict
  | _ => none

/-- The status a course ends with. -/
def status (course : Course) : Status :=
  match course.failure? with
  | some failure => failure.status
  | none => .passed

/-- The final stage of a course. -/
def lastStage (course : Course) : Stage :=
  match course.failure? with
  | some failure => .failed failure.status failure.code
  | none => .passed

/-- The outcome of a scenario that took a course. -/
def outcome (course : Course) (scenario : Scenario) (expected : String) : Outcome where
  scenario := scenario
  expectedOwner := expected
  actualOwner := course.verdict?.bind Verdict.owner
  argumentsMatched := course.verdict?.any Verdict.argumentsMatched
  status := course.status
  failure := course.failure?
  trace := course.stages ++ [course.lastStage]

end Course

end Linkage
