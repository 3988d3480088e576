import Linkage.Binding.Request
import Linkage.Call.Error
import Linkage.Repository.Payload

/-!
# Failures of scenarios

Everything a scenario can end in other than success, with a stable code for each cause and the
status it is counted under. Failures to get at the payload happen before anything is bound and
count as failures to resolve.
-/

namespace Linkage

/-- The outcome of a scenario in one word. -/
inductive Status where
  | passed | mismatch | resolutionFailure | invocationFailure
  deriving DecidableEq, Repr, Inhabited

/-- The word for a status. -/
def Status.word : Status → String
  | passed => "pass"
  | mismatch => "mismatch"
  | resolutionFailure => "resolutionFailure"
  | invocationFailure => "invocationFailure"

/-- The status a word stands for. -/
def Status.ofWord? (word : String) : Option Status :=
  [passed, mismatch, resolutionFailure, invocationFailure].find? fun status => status.word = word

theorem Status.ofWord?_word (status : Status) : ofWord? status.word = some status := by
  cases status <;> decide

/-- Why a scenario failed. -/
inductive Failure where
  | payload (error : PayloadError)
  | binding (error : BindingError)
  | call (error : CallError)
  /-- Some arguments did not come back as they were sent. -/
  | argumentMismatch (slots : List Nat)
  /-- Another unit answered. -/
  | wrongOwner (expected actual : String)
  /-- The sensitive value is not in the answer. -/
  | taintLost
  deriving DecidableEq, Repr, Inhabited

/-- The code of a failure to define a unit. -/
def DefinitionError.code : DefinitionError → String
  | duplicateDefinition _ => "DR0001"
  | duplicateMember _ _ _ => "DR0002"
  | invalidDeclaration _ _ => "DR0003"

/-- The code of a failure to get at a payload. -/
def PayloadError.code : PayloadError → String
  | definition error => error.code
  | _ => "DR0050"

/-- The code of a failure to load a type. A walk without end counts with those that are given up. -/
def LoadError.code : LoadError → String
  | notFound _ _ => "DR0010"
  | tooManyHops _ _ | endless _ => "DR0011"

/-- The code of a failure to bind a member. -/
def BindingError.code : BindingError → String
  | ambiguousDefault _ _ => "DR0020"
  | unsupportedInterfaceStatic _ _ => "DR0021"
  | noSuchMember _ _ _ => "DR0022"
  | abstractMember _ _ => "DR0023"
  | notOverridden _ _ => "DR0024"
  | notInherited _ _ => "DR0025"
  | load error => error.code

/-- The code of a failure in a phase of a call. -/
def CallPhase.code : CallPhase → String
  | construction => "DR0030"
  | binding => "DR0031"
  | running => "DR0032"

namespace Failure

/-- The code of a failure. -/
def code : Failure → String
  | payload error => error.code
  | binding error => error.code
  | call error => error.phase.code
  | argumentMismatch _ => "DR0040"
  | wrongOwner _ _ => "DR0041"
  | taintLost => "DR0042"

/-- The status a failure is counted under. -/
def status : Failure → Status
  | payload _ | binding _ => .resolutionFailure
  | call _ => .invocationFailure
  | argumentMismatch _ | wrongOwner _ _ | taintLost => .mismatch

/-- The wording of a failure. -/
def message : Failure → String
  | payload error => error.message
  | binding error => error.message
  | call error => error.message
  | argumentMismatch slots =>
    "arguments changed across the call at slots [" ++
      ", ".intercalate (slots.map fun slot => toString slot) ++ "]"
  | wrongOwner expected actual => "expected owner `" ++ expected ++ "`, answered by `" ++ actual ++ "`"
  | taintLost => "sink never received the sensitive value"

end Failure

end Linkage
