import Linkage.Proofs.CanonicalCalls
import Linkage.Proofs.ScenarioSpaces

/-!
# What passes

A scenario passes when nothing stops it on its way and the check at the end succeeds. Each stage is
inverted by one lemma: `Symbol.prepare_eq_ok_iff` for the receiver, `Caller.invoke_eq_ok_iff` for
the call, `Harness.passed_iff_answered` for the whole course. `Harness.Honest` lists what a scenario
needs besides, without running anything, and `Harness.passed_iff` says that this is all it needs.
-/

namespace Linkage

/-! ## Stages -/

namespace LoadedType

variable {runtime reference : LoadedType} {maxHops : Nat}

theorem construct_eq_ok_iff :
    runtime.construct = .ok () ↔ runtime.unit.isConstructible = true := by
  rw [construct]
  split
  · simp [*]
  · simp [*]

theorem holdAs_eq_ok_iff :
    runtime.holdAs reference maxHops = .ok () ↔ runtime.isAssignable reference maxHops = .ok true := by
  rw [holdAs]
  split <;> simp [*]

end LoadedType

/-- What a receiver needs: its type can be constructed, and the instance can be held as the
reference type, if there is one. -/
structure Receiver.Fit (receiver : Receiver) (maxHops : Nat) : Prop where
  constructible : receiver.runtime.unit.isConstructible = true
  assignable : ∀ reference ∈ receiver.reference,
    receiver.runtime.isAssignable reference maxHops = .ok true

theorem Receiver.ready_eq_ok_iff {receiver : Receiver} {maxHops : Nat} :
    receiver.ready maxHops = .ok () ↔ receiver.Fit maxHops := by
  rw [Receiver.ready, Except.bind_eq_ok_iff]
  constructor
  · rintro ⟨⟨⟩, hconstruct, hheld⟩
    refine ⟨LoadedType.construct_eq_ok_iff.1 hconstruct, ?_⟩
    intro reference hreference
    rw [Option.mem_def.1 hreference] at hheld
    exact LoadedType.holdAs_eq_ok_iff.1 hheld
  · intro fit
    refine ⟨(), LoadedType.construct_eq_ok_iff.2 fit.constructible, ?_⟩
    cases hreference : receiver.reference with
    | none => rfl
    | some reference => exact LoadedType.holdAs_eq_ok_iff.2 (fit.assignable reference hreference)

theorem Symbol.prepare_eq_ok_iff {symbol : Symbol} {maxHops : Nat} :
    symbol.prepare maxHops = .ok () ↔ ∀ receiver ∈ symbol.receiver, receiver.Fit maxHops := by
  rw [Symbol.prepare]
  cases symbol.receiver with
  | none => simp
  | some receiver => simp [Receiver.ready_eq_ok_iff]

/-- A call goes through when the receiver is ready and the body answers the arguments with the
value drawn among them. -/
theorem Caller.invoke_eq_ok_iff {σ : Type} {caller : Caller σ} {symbol : Symbol}
    {values : List Value} {state : σ} {invocation : Invocation} :
    (caller.invoke symbol values state).1 = .ok invocation ↔
      symbol.prepare caller.maxHops = .ok () ∧
        symbol.call (withSensitive values (caller.source.draw state).1)
          (caller.source.draw state).1 = .ok invocation := by
  rcases caller.invoke_cases symbol values state with ⟨error, hprepare, hinvoke⟩ |
    ⟨error, hprepare, hcall, hinvoke⟩ | ⟨found, hprepare, hcall, hinvoke⟩
  · simp [hprepare, hinvoke]
  · simp [hprepare, hcall, hinvoke]
  · simp [hprepare, hcall, hinvoke]

/-- No failure is counted as passed. -/
theorem Failure.status_ne_passed (failure : Failure) : failure.status ≠ .passed := by
  cases failure <;> simp [Failure.status]

theorem Course.status_eq_passed_iff {course : Course} :
    course.status = .passed ↔ ∃ verdict, course = .answered verdict (.ok ()) := by
  rw [Course.status]
  cases course with
  | answered verdict check =>
    cases check with
    | ok _ => simp [Course.failure?]
    | error failure => simp [Course.failure?, failure.status_ne_passed]
  | _ => simp [Course.failure?, Failure.status]

namespace Harness

variable {σ : Type} {harness : Harness σ} {scenario : Scenario} {session : Session σ}

/-- A scenario passes when its namespace is built, its member is bound and called, and the answer
passes the check. -/
theorem passed_iff_answered :
    (harness.run scenario session).1.status = .passed ↔
      ∃ space symbol,
        (harness.build scenario session.cache).1 = .ok space ∧
        (harness.resolver space).resolve (Plan.ofScenario scenario).request = .ok symbol ∧
        ∃ invocation,
          (harness.caller.invoke symbol canonicalArguments session.exchange).1 = .ok invocation ∧
          (Verdict.ofInvocation invocation symbol.member.key.signature).check
            (harness.expectedOwner scenario) = .ok () := by
  constructor
  · intro hpassed
    obtain ⟨taken, after, takes, hrun⟩ := harness.exists_takes scenario session
    rw [hrun] at hpassed
    obtain ⟨verdict, hanswered⟩ := Course.status_eq_passed_iff.1 hpassed
    cases takes with
    | answered builds resolves invokes =>
      exact ⟨_, _, by rw [builds], resolves, _, by rw [invokes], (Course.answered.inj hanswered).2⟩
    | _ => cases hanswered
  · rintro ⟨space, symbol, hbuild, hresolve, invocation, hinvoke, hcheck⟩
    rw [run_eq_of_takes (.answered (Prod.ext hbuild rfl) hresolve (Prod.ext hinvoke rfl)), hcheck]
    rfl

/-- All members that are asked for have the canonical signature. -/
theorem signature_of_ofScenario (scenario : Scenario) :
    (Plan.ofScenario scenario).request.member.signature = .canonical := by
  rw [Plan.ofScenario]
  cases scenario.dispatch <;> rfl

/-- So has the member of the symbol that a scenario comes to. -/
theorem signature_of_resolve {space : Namespace} {symbol : Symbol}
    (h : (harness.resolver space).resolve (Plan.ofScenario scenario).request = .ok symbol) :
    symbol.member.key.signature = .canonical := by
  have hmember := (Resolver.sound_of_resolve h).member_declared
  rw [(CodeUnit.mem_and_key_of_member? hmember).2]
  exact signature_of_ofScenario scenario

/-- What a scenario needs in order to pass: its namespace can be built, its member is bound there to
a symbol whose receiver can be had, and the body of the symbol transfers under the tag expected,
which has no colon. The value that the source draws must not be empty. -/
structure Honest (harness : Harness σ) (scenario : Scenario) (session : Session σ)
    (space : Namespace) (symbol : Symbol) : Prop where
  builds : (harness.build scenario session.cache).1 = .ok space
  resolves : (harness.resolver space).resolve (Plan.ofScenario scenario).request = .ok symbol
  receiver_fit : ∀ receiver ∈ symbol.receiver, receiver.Fit harness.settings.maxHops
  transfers : symbol.body = .transfer (harness.expectedOwner scenario)
  colon_notMem : ':' ∉ (harness.expectedOwner scenario).toList
  draws : (harness.source.draw session.exchange).1 ≠ ""

variable {space : Namespace} {symbol : Symbol}

/-- The call of the symbol that a scenario comes to, and the check behind it, are decided by the
receiver, the body and the value drawn. -/
theorem answered_iff (hhost : harness.host.Unquoted) (hcache : session.cache.Reached)
    (hbuild : (harness.build scenario session.cache).1 = .ok space)
    (hresolve :
      (harness.resolver space).resolve (Plan.ofScenario scenario).request = .ok symbol) :
    (∃ invocation,
      (harness.caller.invoke symbol canonicalArguments session.exchange).1 = .ok invocation ∧
      (Verdict.ofInvocation invocation symbol.member.key.signature).check
        (harness.expectedOwner scenario) = .ok ()) ↔
    (∀ receiver ∈ symbol.receiver, receiver.Fit harness.settings.maxHops) ∧
      symbol.body = .transfer (harness.expectedOwner scenario) ∧
      ':' ∉ (harness.expectedOwner scenario).toList ∧
      (harness.source.draw session.exchange).1 ≠ "" := by
  have hquote := unquoted_of_resolve hhost hcache hbuild hresolve
  have hkey := signature_of_resolve hresolve
  rw [← Symbol.answers_iff hkey hquote, ← Symbol.prepare_eq_ok_iff, ← exists_and_left]
  simp only [Caller.invoke_eq_ok_iff, and_assoc]
  rfl

/-- With a host that was parsed from a store and a cache that lookups lead to, a scenario passes
exactly when some symbol is honest. A body that tampers, raises, or transfers under another tag or
under one with a colon never passes, however it is made up; one that is honest always does. -/
theorem passed_iff {store : Store} {reading : Reading} {settings : Settings} {source : Source σ}
    {sink : Sink σ} (made : ofStore store reading settings source sink = .ok harness)
    (reached : session.cache.Reached) :
    (harness.run scenario session).1.status = .passed ↔
      ∃ space symbol, harness.Honest scenario session space symbol := by
  have hhost := unquoted_host made
  rw [passed_iff_answered]
  constructor
  · rintro ⟨space, symbol, hbuild, hresolve, hinvoked⟩
    obtain ⟨hfit, hbody, hcolon, hdraws⟩ :=
      (answered_iff hhost reached hbuild hresolve).1 hinvoked
    exact ⟨space, symbol, hbuild, hresolve, hfit, hbody, hcolon, hdraws⟩
  · rintro ⟨space, symbol, honest⟩
    have hinvoked := (answered_iff hhost reached honest.builds honest.resolves).2
      ⟨honest.receiver_fit, honest.transfers, honest.colon_notMem, honest.draws⟩
    exact ⟨space, symbol, honest.builds, honest.resolves, hinvoked⟩

end Harness

/-! ## A store with one unit -/

namespace Solo

/-- The first line of a unit. -/
def head : String := "class com.example.theseus.dynandref.AReflectee \x7b"

/-- A member with the canonical signature. -/
def line : String :=
  " static staticTransfer(boolean, byte, short, char, int, long, float, double, String, String...)"

/-- The body of the member, and the end of the unit. -/
def tail : String := " = transfer \"A\"; \x7d"

/-- A payload with one unit. -/
def text : String := head ++ line ++ tail

/-- The member the unit declares. -/
def member : Member := ⟨⟨"staticTransfer", .canonical⟩, .static, some (.transfer "A")⟩

/-- The unit as declared. -/
def declaration : Declaration where
  name := ⟨"com.example.theseus.dynandref.AReflectee"⟩
  kind := .concreteClass
  parent := none
  capabilities := []
  members := [member]

/-- The unit. -/
def unit : CodeUnit := ⟨⟨scenarioNumber, declaration⟩, Declaration.fault?_eq_none_iff.1 (by decide)⟩

/-- The units of the payload. -/
def units : Registry := ⟨[unit], by decide⟩

/-- A store whose host declares nothing. -/
def store : Store :=
  ((Files.empty.put Bundled.hostName "".toUTF8).put Bundled.payloadName text.toUTF8).store

/-- The harness over the store. -/
def harness : Harness (List String) :=
  .ofHost .empty Harness.apart_empty store .nothing {} (.constant "secret") .recording

/-- A call on the type itself, with no host above. -/
def scenario : Scenario := ⟨.byteBuffer, false, false, .static⟩

/-- What the call is bound to. -/
def symbol : Symbol :=
  ⟨⟨unit, harness.space scenario units⟩, .static, member, .transfer "A", .declared, none⟩

theorem registry_text : Payload.registry scenarioNumber text.toUTF8 = .ok units := by
  -- the texts are taken apart into characters here, which the kernel is slow at
  have hhead : head.toList = _ := String.toList_ofList
  have hline : line.toList = _ := String.toList_ofList
  have htail : tail.toList = _ := String.toList_ofList
  rw [Payload.registry_toUTF8, Payload.parse, Script.parse, text, String.toList_append,
    String.toList_append, hhead, hline, htail]
  exact Except.toOption_eq_some_iff.1 (by decide +kernel)

theorem registry_empty : Payload.registry hostNumber "".toUTF8 = .ok .empty :=
  Except.toOption_eq_some_iff.1 (by decide +kernel)

theorem made :
    Harness.ofStore store .nothing {} (.constant "secret") .recording = .ok harness :=
  Harness.ofStore_eq_ok_iff.2 ⟨"".toUTF8, .empty, Harness.apart_empty, rfl, registry_empty, rfl⟩

theorem honest : harness.Honest scenario ⟨.empty, []⟩ (harness.space scenario units) symbol where
  builds := by
    have hbytes : harness.store.bytes harness.settings.payloadName = .ok text.toUTF8 := rfl
    rw [Harness.fst_build, scenario, Harness.payloadUnits_byteBuffer, hbytes, Except.ok_bind,
      registry_text]
    rfl
  resolves := Except.toOption_eq_some_iff.1 (by decide +kernel)
  receiver_fit := by
    rintro receiver ⟨⟩
  transfers := by decide +kernel
  colon_notMem := by decide +kernel
  draws := by decide

end Solo

/-- The one unit of the payload answers. -/
theorem Harness.passed_solo :
    (Solo.harness.run Solo.scenario ⟨.empty, []⟩).1.status = .passed :=
  (Harness.passed_iff Solo.made .empty).2 ⟨_, _, Solo.honest⟩

end Linkage
