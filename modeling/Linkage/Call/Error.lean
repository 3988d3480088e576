import Linkage.Signature

/-!
# Failures of calls

A call goes through three phases, and each fails in its own way: constructing the receiver,
binding the receiver and the arguments, and running the body. `Misfit` lists the ways in which
arguments fail to fit a signature.
-/

namespace Linkage

/-- The phase in which a call fails. -/
inductive CallPhase where
  | construction | binding | running
  deriving DecidableEq, Repr, Inhabited

/-- The words for a failure in a phase. -/
def CallPhase.text : CallPhase → String
  | construction => "construction failed"
  | binding => "binding failed"
  | running => "call raised"

/-- A failed call. -/
structure CallError where
  phase : CallPhase
  cause : String
  deriving DecidableEq, Repr, Inhabited

/-- The wording of the failure. -/
def CallError.message (error : CallError) : String := error.phase.text ++ ": " ++ error.cause

/-- Why arguments do not fit a signature. -/
inductive Misfit where
  | tooFew (needed given : Nat) (signature : Signature)
  | wrongType (slot : Nat) (expected given : ParamType)
  | tooMany (extra : Nat) (signature : Signature)
  | missingGroup (slot : Nat)
  deriving DecidableEq, Repr

namespace Misfit

/-- The wording of the cause. -/
def text : Misfit → String
  | tooFew needed given signature =>
    "expected at least " ++ toString needed ++ " arguments for " ++ signature.text ++ ", got " ++
      toString given
  | wrongType slot expected given =>
    "slot " ++ toString slot ++ ": expected " ++ expected.word ++ ", got " ++ given.word
  | tooMany extra signature => toString extra ++ " extra arguments for " ++ signature.text
  | missingGroup slot => "slot " ++ toString slot ++ ": missing variable-length group"

/-- The failure to bind arguments. -/
def error (misfit : Misfit) : CallError := ⟨.binding, misfit.text⟩

end Misfit

end Linkage
