import Linkage.Proofs.Fitting
import Linkage.Proofs.Passing

/-!
# The phases of a call

A call can be stopped when its receiver is constructed, when the receiver is held, when the arguments
are fitted, and when the body runs. `Caller.Ends` lists the ways in which a call can end, each with
what stopped it and the state it leaves, and `Caller.ends_invoke` says that there are no others. What
stops a call is told without running the call.

What a call does to the outside is read off a record that is kept beside the state
(`Caller.recorded`), which changes nothing else. `Caller.phased` puts both together: each phase fails
for its own reasons and only where the phases before it did not, the source is drawn from once if the
receiver is ready and not at all otherwise, and the sink is given the answer and nothing else.
-/

namespace Linkage

/-! ## What stops a call -/

namespace Symbol

/-- The call needs an instance of a type that cannot be constructed. -/
def Unconstructible (symbol : Symbol) : Prop :=
  ∃ receiver ∈ symbol.receiver, receiver.runtime.unit.isConstructible = false

/-- The call holds its instance as a type for which the walk does not find that it can stand, be it
that it cannot or that the walk fails. -/
def Unheld (symbol : Symbol) (maxHops : Nat) : Prop :=
  ∃ receiver ∈ symbol.receiver, ∃ reference ∈ receiver.reference,
    receiver.runtime.isAssignable reference maxHops ≠ .ok true

/-- The arguments do not fit the member that was bound. -/
def Misfitted (symbol : Symbol) (sent : List Value) : Prop :=
  ∃ misfit, fit sent symbol.member.key.signature = .error misfit

/-- The receiver can be prepared when nothing is wrong with it. -/
structure Ready (symbol : Symbol) (maxHops : Nat) : Prop where
  constructible : ¬ symbol.Unconstructible
  held : ¬ symbol.Unheld maxHops

variable {symbol : Symbol} {maxHops : Nat}

/-- Preparing the receiver fails in the phase of what is wrong with it; the construction comes
first. -/
theorem prepare_cases (symbol : Symbol) (maxHops : Nat) :
    (∃ cause, symbol.prepare maxHops = .error ⟨.construction, cause⟩ ∧ symbol.Unconstructible) ∨
      (∃ cause, symbol.prepare maxHops = .error ⟨.binding, cause⟩ ∧ ¬ symbol.Unconstructible ∧
        symbol.Unheld maxHops) ∨
      symbol.prepare maxHops = .ok () ∧ symbol.Ready maxHops := by
  cases hreceiver : symbol.receiver with
  | none =>
    refine Or.inr (Or.inr ⟨by rw [prepare, hreceiver], ⟨?_, ?_⟩⟩)
    · simp [Unconstructible, hreceiver]
    · simp [Unheld, hreceiver]
  | some receiver =>
    have hprepare : symbol.prepare maxHops = receiver.ready maxHops := by rw [prepare, hreceiver]
    have hconstructible : symbol.Unconstructible ↔
        receiver.runtime.unit.isConstructible = false := by simp [Unconstructible, hreceiver]
    have hheld : symbol.Unheld maxHops ↔ ∃ reference ∈ receiver.reference,
        receiver.runtime.isAssignable reference maxHops ≠ .ok true := by simp [Unheld, hreceiver]
    rw [hprepare, hheld]
    -- the reference type is looked at only once the instance is there
    cases hconstruct : receiver.runtime.unit.isConstructible with
    | false =>
      have hready : ∃ cause, receiver.ready maxHops = .error ⟨.construction, cause⟩ :=
        ⟨_, by rw [Receiver.ready, LoadedType.construct, if_neg (by simp [hconstruct]),
          Except.error_bind]⟩
      obtain ⟨cause, hready⟩ := hready
      exact Or.inl ⟨cause, hready, hconstructible.2 hconstruct⟩
    | true =>
      have hpossible : ¬ symbol.Unconstructible := by simp [hconstructible, hconstruct]
      have hconstructed := LoadedType.construct_eq_ok_iff.2 hconstruct
      cases hreference : receiver.reference with
      | none =>
        have hready : receiver.ready maxHops = .ok () := by
          rw [Receiver.ready, hconstructed, Except.ok_bind, hreference]
        refine Or.inr (Or.inr ⟨hready, hpossible, ?_⟩)
        simp [hheld, hreference]
      | some reference =>
        have hready : receiver.ready maxHops = receiver.runtime.holdAs reference maxHops := by
          rw [Receiver.ready, hconstructed, Except.ok_bind, hreference]
        rw [LoadedType.holdAs] at hready
        split at hready
        · next hassignable =>
          refine Or.inr (Or.inr ⟨hready, hpossible, ?_⟩)
          simp [hheld, hreference, hassignable]
        · next hassignable =>
          exact Or.inr (Or.inl ⟨_, hready, hpossible, reference, rfl, by simp [hassignable]⟩)
        · next error hassignable =>
          exact Or.inr (Or.inl ⟨_, hready, hpossible, reference, rfl, by simp [hassignable]⟩)

/-- What a body answers, or the message it raises. -/
theorem run_cases (body : Body) (bound : List Value) :
    (∃ message, body = .raise message ∧ body.run bound = .error ⟨.running, message⟩) ∨
      (∀ message, body ≠ .raise message) ∧ ∃ result, body.run bound = .ok result := by
  cases body with
  | transfer tag => exact Or.inr ⟨fun message => by simp, _, rfl⟩
  | raise message => exact Or.inl ⟨message, rfl, rfl⟩
  | tamper tag => exact Or.inr ⟨fun message => by simp, _, rfl⟩

end Symbol

namespace Caller

variable {σ : Type} {caller : Caller σ} {symbol : Symbol} {values : List Value} {state : σ}

/-- The value that a call draws. -/
def drawn (caller : Caller σ) (state : σ) : String := (caller.source.draw state).1

/-- The arguments that a call sends. -/
def sent (caller : Caller σ) (values : List Value) (state : σ) : List Value :=
  withSensitive values (caller.drawn state)

/-- The ways in which a call can end, each with what stopped it, the outcome and the state that is
left. -/
inductive Ends (caller : Caller σ) (symbol : Symbol) (values : List Value) (state : σ) :
    Except CallError Invocation → σ → Prop where
  | unconstructed (cause : String) (stopped : symbol.Unconstructible) :
      Ends caller symbol values state (.error ⟨.construction, cause⟩) state
  | unheld (cause : String) (constructible : ¬ symbol.Unconstructible)
      (stopped : symbol.Unheld caller.maxHops) :
      Ends caller symbol values state (.error ⟨.binding, cause⟩) state
  | misfitted (cause : String) (ready : symbol.Ready caller.maxHops)
      (stopped : symbol.Misfitted (caller.sent values state)) :
      Ends caller symbol values state (.error ⟨.binding, cause⟩) (caller.source.draw state).2
  | raised (message : String) (ready : symbol.Ready caller.maxHops)
      (fitted : ¬ symbol.Misfitted (caller.sent values state))
      (stopped : symbol.body = .raise message) :
      Ends caller symbol values state (.error ⟨.running, message⟩) (caller.source.draw state).2
  | answered (result : String) (bound : List Value) (ready : symbol.Ready caller.maxHops)
      (fits : fit (caller.sent values state) symbol.member.key.signature = .ok bound)
      (unraised : ∀ message, symbol.body ≠ .raise message)
      (runs : symbol.body.run bound = .ok result) :
      Ends caller symbol values state
        (.ok ⟨result, caller.sent values state, bound, caller.drawn state⟩)
        (caller.sink.accept (caller.source.draw state).2 result)

/-- Every call ends in one of these ways. -/
theorem ends_invoke (caller : Caller σ) (symbol : Symbol) (values : List Value) (state : σ) :
    caller.Ends symbol values state (caller.invoke symbol values state).1
      (caller.invoke symbol values state).2 := by
  rcases symbol.prepare_cases caller.maxHops with ⟨cause, hprepare, hstopped⟩ |
    ⟨cause, hprepare, hconstructible, hstopped⟩ | ⟨hprepare, ready⟩
  · rw [invoke_of_prepare_eq_error hprepare]
    exact .unconstructed cause hstopped
  · rw [invoke_of_prepare_eq_error hprepare]
    exact .unheld cause hconstructible hstopped
  · cases hfit : fit (caller.sent values state) symbol.member.key.signature with
    | error misfit =>
      have hcall : symbol.call (caller.sent values state) (caller.drawn state) =
          .error misfit.error := by
        rw [Symbol.call, hfit]
        rfl
      rw [invoke_of_call_eq_error hprepare hcall]
      exact .misfitted misfit.text ready ⟨misfit, hfit⟩
    | ok bound =>
      have hbound : (fit (caller.sent values state) symbol.member.key.signature).mapError
          Misfit.error = .ok bound := Except.mapError_eq_ok_iff.2 hfit
      rcases Symbol.run_cases symbol.body bound with ⟨message, hraise, hrun⟩ |
        ⟨hunraised, result, hrun⟩
      · have hcall : symbol.call (caller.sent values state) (caller.drawn state) =
            .error ⟨.running, message⟩ := by
          rw [Symbol.call, hbound, Except.ok_bind, hrun, Except.error_bind]
        have hfitted : ¬ symbol.Misfitted (caller.sent values state) := by
          simp [Symbol.Misfitted, hfit]
        rw [invoke_of_call_eq_error hprepare hcall]
        exact .raised message ready hfitted hraise
      · have hcall : symbol.call (caller.sent values state) (caller.drawn state) =
            .ok ⟨result, caller.sent values state, bound, caller.drawn state⟩ := by
          rw [Symbol.call, hbound, Except.ok_bind, hrun, Except.ok_bind]
        rw [invoke_of_call_eq_ok hprepare hcall]
        exact .answered result bound ready hfit hunraised hrun

/-! ## The record of a call -/

/-- What a call does to the outside. -/
inductive Deed where
  /-- A value was drawn from the source. -/
  | drew (value : String)
  /-- An answer was given to the sink. -/
  | delivered (answer : String)
  deriving DecidableEq, Repr

/-- The caller with a record of its deeds beside the state. -/
def recorded (caller : Caller σ) : Caller (σ × List Deed) where
  source.draw := fun state =>
    let (value, next) := caller.source.draw state.1
    (value, next, state.2 ++ [.drew value])
  sink.accept := fun state answer =>
    (caller.sink.accept state.1 answer, state.2 ++ [.delivered answer])
  maxHops := caller.maxHops

/-- The deeds of a call, in order. -/
def deeds (caller : Caller σ) (symbol : Symbol) (values : List Value) (state : σ) : List Deed :=
  (caller.recorded.invoke symbol values (state, [])).2.2

/-- Keeping a record changes neither the outcome nor the state. -/
theorem invoke_recorded (caller : Caller σ) (symbol : Symbol) (values : List Value) (state : σ)
    (before : List Deed) :
    (caller.recorded.invoke symbol values (state, before)).1 = (caller.invoke symbol values state).1 ∧
      (caller.recorded.invoke symbol values (state, before)).2.1 =
        (caller.invoke symbol values state).2 := by
  rcases caller.invoke_cases symbol values state with ⟨error, hprepare, hinvoke⟩ |
    ⟨error, hprepare, hcall, hinvoke⟩ | ⟨invocation, hprepare, hcall, hinvoke⟩
  · have hrecorded : caller.recorded.invoke symbol values (state, before) =
        (.error error, state, before) := invoke_of_prepare_eq_error hprepare
    rw [hrecorded, hinvoke]
    exact ⟨rfl, rfl⟩
  · have hrecorded : caller.recorded.invoke symbol values (state, before) =
        (.error error, (caller.source.draw state).2,
          before ++ [.drew (caller.source.draw state).1]) := invoke_of_call_eq_error hprepare hcall
    rw [hrecorded, hinvoke]
    exact ⟨rfl, rfl⟩
  · have hrecorded : caller.recorded.invoke symbol values (state, before) =
        (.ok invocation, caller.sink.accept (caller.source.draw state).2 invocation.result,
          before ++ [.drew (caller.source.draw state).1] ++ [.delivered invocation.result]) :=
      invoke_of_call_eq_ok hprepare hcall
    rw [hrecorded, hinvoke]
    exact ⟨rfl, rfl⟩

/-! ## The phases -/

/-- How a call with a given outcome, state left and record has to have gone. -/
structure Phased (caller : Caller σ) (symbol : Symbol) (values : List Value) (state : σ)
    (outcome : Except CallError Invocation) (left : σ) (record : List Deed) : Prop where
  construction_iff : (∃ cause, outcome = .error ⟨.construction, cause⟩) ↔ symbol.Unconstructible
  binding_iff : (∃ cause, outcome = .error ⟨.binding, cause⟩) ↔
    ¬ symbol.Unconstructible ∧
      (symbol.Unheld caller.maxHops ∨ symbol.Misfitted (caller.sent values state))
  /-- The body's own message is the cause. -/
  running_iff : ∀ message, outcome = .error ⟨.running, message⟩ ↔
    ¬ symbol.Unconstructible ∧ ¬ symbol.Unheld caller.maxHops ∧
      ¬ symbol.Misfitted (caller.sent values state) ∧ symbol.body = .raise message
  answered_iff : (∃ invocation, outcome = .ok invocation) ↔
    ¬ symbol.Unconstructible ∧ ¬ symbol.Unheld caller.maxHops ∧
      ¬ symbol.Misfitted (caller.sent values state) ∧ ∀ message, symbol.body ≠ .raise message
  /-- Nothing is drawn for a receiver that is not ready. -/
  undrawn : ¬ symbol.Ready caller.maxHops → record = [] ∧ left = state
  /-- Nothing is delivered by a call that fails, though a value was drawn for it. -/
  undelivered : symbol.Ready caller.maxHops → ∀ error, outcome = .error error →
    record = [.drew (caller.drawn state)] ∧ left = (caller.source.draw state).2
  delivered : ∀ invocation, outcome = .ok invocation →
    record = [.drew (caller.drawn state), .delivered invocation.result] ∧
      left = caller.sink.accept (caller.source.draw state).2 invocation.result
  /-- An invocation is made up of the value drawn, the arguments with it, their normal form and what
  the body answers to that. -/
  carries : ∀ invocation, outcome = .ok invocation →
    invocation.sensitive = caller.drawn state ∧
      invocation.sent = caller.sent values state ∧
      fit invocation.sent symbol.member.key.signature = .ok invocation.bound ∧
      symbol.body.run invocation.bound = .ok invocation.result
  /-- Only the sensitive slot may hold another value than the one given. -/
  frame : ∀ invocation, outcome = .ok invocation → invocation.sent.length = values.length ∧
    ∀ slot, slot ≠ sensitiveSlot → invocation.sent[slot]? = values[slot]?

/-- Each way to end is one that keeps the phases. -/
theorem Ends.keepsPhases {outcome : Except CallError Invocation} {after : σ × List Deed}
    (ends : caller.recorded.Ends symbol values (state, []) outcome after) :
    caller.Phased symbol values state outcome after.1 after.2 := by
  -- what stops a call is the same with and without a record, but has to be said of the caller itself
  cases ends with
  | unconstructed cause stopped =>
    have hready : ¬ symbol.Ready caller.maxHops := fun ready => ready.constructible stopped
    constructor <;> simp [stopped, hready]
  | unheld cause constructible stopped =>
    have stopped : symbol.Unheld caller.maxHops := stopped
    have hready : ¬ symbol.Ready caller.maxHops := fun ready => ready.held stopped
    constructor <;> simp [constructible, stopped, hready]
  | misfitted cause ready stopped =>
    have ready : symbol.Ready caller.maxHops := ready
    have stopped : symbol.Misfitted (caller.sent values state) := stopped
    constructor <;> simp [ready, ready.constructible, ready.held, stopped, recorded, drawn]
  | raised message ready fitted stopped =>
    have ready : symbol.Ready caller.maxHops := ready
    have fitted : ¬ symbol.Misfitted (caller.sent values state) := fitted
    constructor <;> simp [ready, ready.constructible, ready.held, fitted, stopped, recorded, drawn]
  | answered result bound ready fits unraised runs =>
    have ready : symbol.Ready caller.maxHops := ready
    have fits : fit (caller.sent values state) symbol.member.key.signature = .ok bound := fits
    have fitted : ¬ symbol.Misfitted (caller.sent values state) := by simp [Symbol.Misfitted, fits]
    constructor
    case carries =>
      rintro _ ⟨⟩
      exact ⟨rfl, rfl, fits, runs⟩
    case frame =>
      rintro _ ⟨⟩
      refine ⟨List.length_set, ?_⟩
      intro slot hslot
      exact List.getElem?_set_ne (Ne.symm hslot)
    all_goals
      simp [ready, ready.constructible, ready.held, fitted, unraised, recorded, drawn]

/-- Every call keeps the phases, read off what it returns, the state it leaves and a record that
changes neither. -/
theorem phased (caller : Caller σ) (symbol : Symbol) (values : List Value) (state : σ) :
    caller.Phased symbol values state (caller.invoke symbol values state).1
        (caller.invoke symbol values state).2 (caller.deeds symbol values state) ∧
      (caller.recorded.invoke symbol values (state, [])).1 = (caller.invoke symbol values state).1 ∧
      (caller.recorded.invoke symbol values (state, [])).2.1 =
        (caller.invoke symbol values state).2 := by
  -- the phases are read off the call with a record, which comes to the same as the call without one
  have hrecorded := caller.invoke_recorded symbol values state []
  have hphased := (caller.recorded.ends_invoke symbol values (state, [])).keepsPhases
  rw [hrecorded.1, hrecorded.2] at hphased
  exact ⟨hphased, hrecorded⟩

end Caller

/-! ## An instance that cannot be held -/

namespace Porter

/-- A member that both classes declare. -/
def carry : Member := ⟨⟨"carry", ⟨[.int]⟩⟩, .virtual, some (.transfer "Porter")⟩

/-- A class that lists a capability that nothing declares. -/
def porter : CodeUnit where
  id := ⟨0, ⟨"Porter"⟩, .concreteClass, none, [⟨"Absent"⟩], [carry]⟩
  valid := Declaration.fault?_eq_none_iff.1 (by decide)

/-- A class that instances of the first are to be held as. -/
def guest : CodeUnit where
  id := ⟨0, ⟨"Guest"⟩, .concreteClass, none, [], [carry]⟩
  valid := Declaration.fault?_eq_none_iff.1 (by decide)

def house : Namespace := .root ⟨1, "house", .isolated, ⟨[porter, guest], by decide⟩, 32⟩

/-- The member of the first class, on an instance held as the second. -/
def symbol : Symbol where
  owner := ⟨porter, house⟩
  dispatch := .factory ⟨"Guest"⟩
  member := carry
  body := .transfer "Porter"
  origin := .declared
  receiver := some ⟨⟨porter, house⟩, some ⟨guest, house⟩⟩

theorem resolve_factory :
    (Resolver.ofNamespace house).resolve ⟨⟨"Porter"⟩, carry.key, .factory ⟨"Guest"⟩⟩ =
      .ok symbol := by
  rfl

/-- A caller that keeps the answers. -/
def caller : Caller (List String) := ⟨.constant "Secret", .recording, 32⟩

theorem unheld : symbol.Unheld caller.maxHops := by
  have hlost : LoadedType.isAssignable ⟨porter, house⟩ ⟨guest, house⟩ 32 =
      .error (.notFound ⟨"Absent"⟩ "house") := by rfl
  refine ⟨_, rfl, _, rfl, ?_⟩
  rw [show caller.maxHops = 32 from rfl, hlost]
  simp

end Porter

/-- The walk that would tell whether the instance can be held fails, as a capability on its way
cannot be loaded. This counts as a failure to bind, and it comes before anything is drawn, even where
the arguments do not fit either. -/
theorem Caller.phased_porter :
    (Resolver.ofNamespace Porter.house).resolve
        ⟨⟨"Porter"⟩, Porter.carry.key, .factory ⟨"Guest"⟩⟩ = .ok Porter.symbol ∧
      (∃ cause, (Porter.caller.invoke Porter.symbol [] []).1 = .error ⟨.binding, cause⟩) ∧
      Porter.caller.deeds Porter.symbol [] [] = [] := by
  obtain ⟨hphased, -⟩ := Porter.caller.phased Porter.symbol [] []
  refine ⟨Porter.resolve_factory, hphased.binding_iff.2 ⟨?_, Or.inl Porter.unheld⟩,
    (hphased.undrawn ?_).1⟩
  · rintro ⟨receiver, ⟨⟩, hconstructible⟩
    cases hconstructible
  · exact fun ready => ready.held Porter.unheld

end Linkage
