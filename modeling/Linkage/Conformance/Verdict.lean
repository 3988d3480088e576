import Linkage.Call.Invoke
import Linkage.Conformance.Failure

/-!
# Verdicts

A verdict compares the answer of a call with what the body was given: who answered, which slots
came back changed, and whether the sensitive value is in the answer. An answer that is no echo has
no owner, and all its slots count as changed.
-/

namespace Linkage

/-- What was seen of a call. -/
structure Verdict where
  owner : Option String
  /-- The slots whose value did not come back. -/
  mismatched : List Nat
  /-- Whether the answer carries the sensitive value. -/
  taintReached : Bool
  deriving DecidableEq, Repr, Inhabited

namespace Verdict

/-- Whether an answer carries a value, plain or as an echo writes it. An empty value is never
carried. -/
def carries (answer sensitive : String) : Bool :=
  !sensitive.isEmpty &&
    (Text.occursIn sensitive.toList answer.toList ||
      Text.occursIn (Echo.quote sensitive.toList) answer.toList)

/-- Whether the value of a slot came back as it was sent. -/
def slotKept (bound : List Value) (echoed : List (Option Value)) (slot : Nat) : Bool :=
  match bound[slot]?, echoed[slot]? with
  | some sent, some (some back) => sent = back
  | _, _ => false

/-- The verdict on a call of a member with a signature. -/
def ofInvocation (invocation : Invocation) (signature : Signature) : Verdict :=
  let slots := List.range signature.arity
  let taintReached := carries invocation.result invocation.sensitive
  match Echo.parse invocation.result with
  | none => ⟨none, slots, taintReached⟩
  | some echo =>
    let echoed := echo.decode signature
    ⟨some echo.owner, slots.filter fun slot => !slotKept invocation.bound echoed slot, taintReached⟩

/-- Whether all arguments came back. -/
def argumentsMatched (verdict : Verdict) : Bool := verdict.mismatched.isEmpty

/-- What an owner that could not be read is called. -/
def unreadableOwner : String := "<unreadable>"

/-- Demand that the expected owner answered, with all arguments and the sensitive value intact. -/
def check (verdict : Verdict) (expected : String) : Except Failure Unit :=
  if verdict.owner ≠ some expected then
    .error (.wrongOwner expected (verdict.owner.getD unreadableOwner))
  else if !verdict.argumentsMatched then .error (.argumentMismatch verdict.mismatched)
  else if !verdict.taintReached then .error .taintLost
  else .ok ()

end Verdict

end Linkage
