import Linkage.Binding.Request
import Linkage.Call.Echo
import Linkage.Call.Error
import Linkage.Namespace.Load

/-!
# Calling symbols

`Caller.invoke` calls a bound member. It constructs the receiver and holds it as the reference type
if there is one, draws the sensitive value, puts it into its slot, fits the arguments to the
member's signature, runs the body, and hands the answer on. The source of sensitive values and the
sink of answers act on a state that the caller threads through, so what a call draws and what it
delivers can be read off the state it leaves.

`fit` binds a list of arguments to a signature: one value for each parameter. Fixed parameters take
the arguments in order and must agree in type. A string group at the end takes either one group or
any number of strings, at least one, which become a group. A group may be empty, but it may not be
left out.

A transferring body answers with the echo of its arguments, a tampering one with the echo of the
arguments after the first integer among them was raised by one, wrapping around. A raising body
fails.
-/

namespace Linkage

/-! ## Fitting arguments to a signature -/

/-- The strings of values that are all strings; the first other value is reported with its slot. -/
def looseStrings : (slot : Nat) → List Value → Except Misfit (List String)
  | _, [] => .ok []
  | slot, .string s :: rest => (looseStrings (slot + 1) rest).map (s :: ·)
  | slot, value :: _ => .error (.wrongType slot .string value.type)

/-- The group made of the arguments from a slot on. -/
def packGroup (slot : Nat) : List Value → Except Misfit (List String)
  | [] => .error (.missingGroup slot)
  | [.group strings] => .ok strings
  | loose => looseStrings slot loose

/-- Check values against types one by one, from a slot on. -/
def checkTypes : (slot : Nat) → List Value → List ParamType → Except Misfit Unit
  | slot, value :: values, expected :: types =>
    if value.type = expected then checkTypes (slot + 1) values types
    else .error (.wrongType slot expected value.type)
  | _, _, _ => .ok ()

/-- Bind arguments to a signature. -/
def fit (values : List Value) (signature : Signature) : Except Misfit (List Value) := do
  let fixed := signature.fixedParams
  if values.length < fixed.length then
    throw (.tooFew fixed.length values.length signature)
  checkTypes 0 values fixed
  let rest := values.drop fixed.length
  if signature.isVariadic then
    let strings ← packGroup fixed.length rest
    return values.take fixed.length ++ [.group strings]
  else if rest.isEmpty then return values.take fixed.length
  else throw (.tooMany rest.length signature)

/-! ## Running bodies -/

/-- Raise the first integer by one. -/
def tamperWith : List Value → List Value
  | [] => []
  | .byte n :: rest => .byte (n + 1) :: rest
  | .short n :: rest => .short (n + 1) :: rest
  | .int n :: rest => .int (n + 1) :: rest
  | .long n :: rest => .long (n + 1) :: rest
  | value :: rest => value :: tamperWith rest

/-- Run a body on bound arguments. -/
def Body.run : Body → List Value → Except CallError String
  | .transfer tag, values => .ok (Echo.ofValues tag values).render
  | .raise message, _ => .error ⟨.running, message⟩
  | .tamper tag, values => .ok (Echo.ofValues tag (tamperWith values)).render

/-! ## Calls -/

/-- Where sensitive values come from. -/
structure Source (σ : Type) where
  draw : σ → String × σ

/-- Where answers go. -/
structure Sink (σ : Type) where
  accept : σ → String → σ

/-- The source that always draws the same value. -/
def Source.constant {σ : Type} (value : String) : Source σ := ⟨fun state => (value, state)⟩

/-- The sink that keeps every answer, in order. -/
def Sink.recording : Sink (List String) := ⟨fun received answer => received ++ [answer]⟩

/-- Whether a piece of text occurs in some received answer. -/
def anyContains (received : List String) (piece : String) : Bool :=
  received.any fun answer => Text.occursIn piece.toList answer.toList

/-- The sink that keeps nothing. -/
def Sink.discarding {σ : Type} : Sink σ := ⟨fun state _ => state⟩

namespace LoadedType

/-- Construct an instance of a type. -/
def construct (type : LoadedType) : Except CallError Unit :=
  if type.unit.isConstructible then .ok ()
  else .error ⟨.construction,
    "`" ++ type.name.text ++ "` (" ++ type.unit.kind.word ++ ") cannot be instantiated"⟩

/-- Hold an instance of a type as a reference of another. -/
def holdAs (runtime reference : LoadedType) (maxHops : Nat) : Except CallError Unit :=
  match runtime.isAssignable reference maxHops with
  | .ok true => .ok ()
  | .ok false => .error ⟨.binding,
      "`" ++ runtime.name.text ++ "` from " ++ runtime.home.label ++ " is not a `" ++
        reference.name.text ++ "` from " ++ reference.home.label⟩
  | .error error => .error ⟨.binding, error.message⟩

end LoadedType

/-- Construct a receiver and hold it as its reference type. -/
def Receiver.ready (receiver : Receiver) (maxHops : Nat) : Except CallError Unit := do
  receiver.runtime.construct
  match receiver.reference with
  | some reference => receiver.runtime.holdAs reference maxHops
  | none => .ok ()

/-- A call that went through. -/
structure Invocation where
  /-- What the body answered. -/
  result : String
  /-- The arguments with the sensitive value among them. -/
  sent : List Value
  /-- The arguments as the body received them. -/
  bound : List Value
  /-- The sensitive value. -/
  sensitive : String
  deriving DecidableEq, Repr

/-- How calls are made. -/
structure Caller (σ : Type) where
  source : Source σ
  sink : Sink σ
  /-- The bound on walks up the types of a receiver. -/
  maxHops : Nat

/-- Fit arguments to a symbol's signature and run its body. -/
def Symbol.call (symbol : Symbol) (sent : List Value) (sensitive : String) :
    Except CallError Invocation := do
  let bound ← (fit sent symbol.member.key.signature).mapError Misfit.error
  let result ← symbol.body.run bound
  .ok ⟨result, sent, bound, sensitive⟩

/-- Prepare the receiver a symbol needs. -/
def Symbol.prepare (symbol : Symbol) (maxHops : Nat) : Except CallError Unit :=
  match symbol.receiver with
  | some receiver => receiver.ready maxHops
  | none => .ok ()

/-- Call a symbol. -/
def Caller.invoke {σ : Type} (caller : Caller σ) (symbol : Symbol) (values : List Value) (state : σ) :
    Except CallError Invocation × σ :=
  match symbol.prepare caller.maxHops with
  | .error error => (.error error, state)
  | .ok () =>
    let (sensitive, drawn) := caller.source.draw state
    match symbol.call (withSensitive values sensitive) sensitive with
    | .error error => (.error error, drawn)
    | .ok invocation => (.ok invocation, caller.sink.accept drawn invocation.result)

namespace Caller

variable {σ : Type} {caller : Caller σ} {symbol : Symbol} {values : List Value} {state : σ}
  {error : CallError} {invocation : Invocation}

/-- Without a receiver nothing is drawn. -/
theorem invoke_of_prepare_eq_error (hprepare : symbol.prepare caller.maxHops = .error error) :
    caller.invoke symbol values state = (.error error, state) := by
  rw [invoke, hprepare]

/-- A call that fails later has drawn a value. -/
theorem invoke_of_call_eq_error (hprepare : symbol.prepare caller.maxHops = .ok ())
    (hcall : symbol.call (withSensitive values (caller.source.draw state).1)
      (caller.source.draw state).1 = .error error) :
    caller.invoke symbol values state = (.error error, (caller.source.draw state).2) := by
  rw [invoke, hprepare]
  dsimp only
  rw [hcall]

/-- Only a call that is answered reaches the sink. -/
theorem invoke_of_call_eq_ok (hprepare : symbol.prepare caller.maxHops = .ok ())
    (hcall : symbol.call (withSensitive values (caller.source.draw state).1)
      (caller.source.draw state).1 = .ok invocation) :
    caller.invoke symbol values state =
      (.ok invocation, caller.sink.accept (caller.source.draw state).2 invocation.result) := by
  rw [invoke, hprepare]
  dsimp only
  rw [hcall]

/-- What a call can do. -/
theorem invoke_cases (caller : Caller σ) (symbol : Symbol) (values : List Value) (state : σ) :
    (∃ error, symbol.prepare caller.maxHops = .error error ∧
      caller.invoke symbol values state = (.error error, state)) ∨
    (∃ error, symbol.prepare caller.maxHops = .ok () ∧
      symbol.call (withSensitive values (caller.source.draw state).1)
        (caller.source.draw state).1 = .error error ∧
      caller.invoke symbol values state = (.error error, (caller.source.draw state).2)) ∨
    ∃ invocation, symbol.prepare caller.maxHops = .ok () ∧
      symbol.call (withSensitive values (caller.source.draw state).1)
        (caller.source.draw state).1 = .ok invocation ∧
      caller.invoke symbol values state =
        (.ok invocation, caller.sink.accept (caller.source.draw state).2 invocation.result) := by
  cases hprepare : symbol.prepare caller.maxHops with
  | error error => exact Or.inl ⟨error, rfl, invoke_of_prepare_eq_error hprepare⟩
  | ok _ =>
    cases hcall : symbol.call (withSensitive values (caller.source.draw state).1)
      (caller.source.draw state).1 with
    | error error => exact Or.inr (Or.inl ⟨error, rfl, rfl, invoke_of_call_eq_error hprepare hcall⟩)
    | ok invocation =>
      exact Or.inr (Or.inr ⟨invocation, rfl, rfl, invoke_of_call_eq_ok hprepare hcall⟩)

end Caller

end Linkage
