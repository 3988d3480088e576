import Linkage.Proofs.Passing

/-!
# Scenarios without a parent

A scenario without the host above its namespace still meets the host in two places. The host is the
caller, which loads the type that an instance is held as, and its units have a part in the owner
that is expected. Neither lets a namesake from the host in.

Only calls through a type that the caller loads depend on the caller
(`Resolver.resolve_withCaller`). Such a call may bind, but the instance can never be held: every
unit that it could be held as is one of the scenario's own, and the caller's is not
(`Harness.prepare_ne_ok_of_parentless`). So without a parent a scenario either runs in the same way
whatever the host is, or fails before anything is drawn or delivered
(`Harness.run_withHost_of_parentless`).
-/

namespace Linkage

/-! ## Callers -/

namespace Resolver

variable {resolver : Resolver} {request : Request}

/-- The resolver with another caller. -/
def withCaller (resolver : Resolver) (caller : Namespace) : Resolver :=
  { resolver with caller := caller }

/-- Only a call through a type that the caller loads depends on the caller. -/
theorem resolve_withCaller (resolver : Resolver) (h : ∀ via, request.dispatch ≠ .factory via)
    (caller : Namespace) :
    (resolver.withCaller caller).resolve request = resolver.resolve request := by
  obtain ⟨type, key, dispatch⟩ := request
  -- every other way of calling ignores the caller, so the two sides are the same by definition
  cases dispatch with
  | factory via => exact absurd rfl (h via)
  | _ => rfl

/-- A call through a type that the caller loads demands that the instance be held as that type. -/
theorem receiver_of_resolve_factory {via : QualifiedName} {symbol : Symbol}
    (hvia : request.dispatch = .factory via) (h : resolver.resolve request = .ok symbol) :
    ∃ target reference, resolver.space.load request.type = .ok target ∧
      resolver.caller.load via = .ok reference ∧
      symbol.receiver = some ⟨target, some reference⟩ := by
  obtain ⟨target, hload, hbind, -⟩ := exists_target_of_resolve h
  rw [hvia, bind] at hbind
  obtain ⟨reference, hreference, hbind⟩ := Except.bind_eq_ok_iff.1 hbind
  obtain ⟨slot, -, hbind⟩ := Except.bind_eq_ok_iff.1 hbind
  cases slot with
  | false => cases hbind
  | true =>
    obtain ⟨binding, -, hbind⟩ := Except.bind_eq_ok_iff.1 hbind
    cases hbind
    exact ⟨target, reference, hload, Except.mapError_eq_ok_iff.1 hreference, rfl⟩

end Resolver

/-- A scenario calls through a type that the caller loads exactly when the host holds its
instance. -/
theorem Plan.exists_factory_iff (scenario : Scenario) :
    (∃ via, (ofScenario scenario).request.dispatch = .factory via) ↔
      scenario.dispatch.isFactory = true := by
  rw [ofScenario]
  cases scenario.dispatch <;> simp [asking, CallForm.isFactory]

/-- A call whose receiver cannot be had draws nothing and delivers nothing. -/
theorem Caller.invoke_of_prepare_ne_ok {σ : Type} {caller : Caller σ} {symbol : Symbol}
    (h : symbol.prepare caller.maxHops ≠ .ok ()) (values : List Value) (state : σ) :
    ∃ error, caller.invoke symbol values state = (.error error, state) := by
  rw [invoke]
  cases hprepare : symbol.prepare caller.maxHops with
  | error error => exact ⟨error, rfl⟩
  | ok _ => exact absurd hprepare h

namespace Harness

variable {σ : Type} {harness : Harness σ} {scenario : Scenario} {session : Session σ}

/-! ## Calls that the host holds -/

/-- Without a parent, no instance can be held as a type that the host loads. -/
theorem prepare_ne_ok_of_parentless {units : Registry} {symbol : Symbol}
    (hparent : scenario.hasParent = false) (hfactory : scenario.dispatch.isFactory = true)
    (hstamp : ∀ unit ∈ units.units, unit.id.stamp = scenarioNumber)
    (hresolve : (harness.resolver (harness.space scenario units)).resolve
      (Plan.ofScenario scenario).request = .ok symbol) (maxHops : Nat) :
    symbol.prepare maxHops ≠ .ok () := by
  intro hprepare
  obtain ⟨via, hvia⟩ := (Plan.exists_factory_iff scenario).2 hfactory
  obtain ⟨target, reference, htarget, hreference, hreceiver⟩ :=
    Resolver.receiver_of_resolve_factory hvia hresolve
  have hassignable :=
    (Symbol.prepare_eq_ok_iff.1 hprepare _ hreceiver).assignable reference rfl
  -- the unit would have to be one of the scenario's own and one of the host's
  obtain ⟨type, hreached, hsame⟩ := LoadedType.reaches_of_isAssignable hassignable
  have hown : type.Within (harness.space scenario units) :=
    hreached.within (LoadedType.within_of_load htarget).1
  have hunits : type.unit ∈ units.units := by
    have hmem := hown.mem_units
    rw [space_eq_root hparent] at hown
    rwa [hown.home_of_root, Namespace.layer, layer_space] at hmem
  have hapart := stamp_ne_of_within_host (LoadedType.within_of_load hreference).1
  rw [← hsame] at hapart
  exact hapart (hstamp type.unit hunits)

/-- Without a parent, a scenario whose instance the host is to hold fails, and nothing is drawn or
delivered. -/
theorem run_of_parentless_factory (hparent : scenario.hasParent = false)
    (hfactory : scenario.dispatch.isFactory = true) :
    (harness.run scenario session).1.status ≠ .passed ∧
      (harness.run scenario session).2.exchange = session.exchange := by
  -- wherever the scenario comes as far as its call, the call fails before it draws
  have hinvoke : ∀ space symbol, (harness.build scenario session.cache).1 = .ok space →
      (harness.resolver space).resolve (Plan.ofScenario scenario).request = .ok symbol →
      ∃ error, harness.caller.invoke symbol canonicalArguments session.exchange =
        (.error error, session.exchange) := by
    intro space symbol hbuild hresolve
    obtain ⟨units, hunits, rfl⟩ := Except.map_eq_ok_iff.1 (harness.fst_build scenario _ ▸ hbuild)
    have hprepare := prepare_ne_ok_of_parentless hparent hfactory (stamp_of_payloadUnits hunits)
      hresolve harness.caller.maxHops
    exact Caller.invoke_of_prepare_ne_ok hprepare canonicalArguments session.exchange
  constructor
  · intro hpassed
    obtain ⟨space, symbol, hbuild, hresolve, invocation, hanswer, -⟩ :=
      passed_iff_answered.1 hpassed
    obtain ⟨error, herror⟩ := hinvoke space symbol hbuild hresolve
    rw [herror] at hanswer
    cases hanswer
  · obtain ⟨taken, after, takes, hrun⟩ := harness.exists_takes scenario session
    rw [hrun]
    cases takes with
    | unbuilt builds => rfl
    | unresolved builds resolves => rfl
    | uninvoked builds resolves invokes =>
      obtain ⟨error, herror⟩ := hinvoke _ _ (by rw [builds]) resolves
      rw [herror] at invokes
      cases invokes
      rfl
    | answered builds resolves invokes =>
      obtain ⟨error, herror⟩ := hinvoke _ _ (by rw [builds]) resolves
      rw [herror] at invokes
      cases invokes

/-! ## Two hosts -/

/-- The harness with another host. -/
def withHost (harness : Harness σ) (host : Namespace)
    (apart : ∀ layer ∈ host.layers, layer.number ≠ scenarioNumber)
    (unitsApart : ∀ layer ∈ host.layers, ∀ unit ∈ layer.units.units,
      unit.id.stamp ≠ scenarioNumber) : Harness σ :=
  { harness with host := host, host_apart := apart, host_units_apart := unitsApart }

variable {host : Namespace} {apart : ∀ layer ∈ host.layers, layer.number ≠ scenarioNumber}
  {unitsApart : ∀ layer ∈ host.layers, ∀ unit ∈ layer.units.units, unit.id.stamp ≠ scenarioNumber}

/-- Without a parent, the host's units have no part in the owner that is expected. -/
theorem expectedOwner_withHost (hparent : scenario.hasParent = false) :
    (harness.withHost host apart unitsApart).expectedOwner scenario =
      harness.expectedOwner scenario := by
  have hpayload : ∀ other : Harness σ,
      other.expectedOwner scenario = other.settings.payloadTag := by
    intro other
    rw [Harness.expectedOwner, Linkage.expectedOwner, hostAnswers, hparent]
    rfl
  rw [hpayload, hpayload]
  rfl

/-- Without a parent, a scenario is built in the same way below any host. -/
theorem build_withHost (hparent : scenario.hasParent = false) (cache : Cache) :
    (harness.withHost host apart unitsApart).build scenario cache =
      harness.build scenario cache := by
  have hspace : (harness.withHost host apart unitsApart).space scenario =
      harness.space scenario := by
    funext units
    rw [space, space, hparent]
    rfl
  rw [build, build, hspace]
  rfl

/-- Without a parent, a scenario takes the same course whatever the host is, unless the host holds
its instance. -/
theorem course_withHost (hparent : scenario.hasParent = false)
    (hfactory : scenario.dispatch.isFactory = false) :
    (harness.withHost host apart unitsApart).course scenario session =
      harness.course scenario session := by
  have hcaller : ∀ via, (Plan.ofScenario scenario).request.dispatch ≠ .factory via := by
    intro via hvia
    have hheld := (Plan.exists_factory_iff scenario).1 ⟨via, hvia⟩
    rw [hfactory] at hheld
    cases hheld
  have hresolve : ∀ space, ((harness.withHost host apart unitsApart).resolver space).resolve
      (Plan.ofScenario scenario).request =
        (harness.resolver space).resolve (Plan.ofScenario scenario).request :=
    fun space => (harness.resolver space).resolve_withCaller hcaller host
  rw [course, course, build_withHost hparent]
  simp only [hresolve, expectedOwner_withHost hparent]
  rfl

/-- Without a parent no host has a say, whatever types it declares. Two harnesses that differ in the
host alone come to the same outcome and leave the same behind, if the host is not to hold the
instance. Otherwise neither passes, and nothing is drawn or delivered. -/
theorem run_withHost_of_parentless (harness : Harness σ) (host : Namespace)
    (apart : ∀ layer ∈ host.layers, layer.number ≠ scenarioNumber)
    (unitsApart : ∀ layer ∈ host.layers, ∀ unit ∈ layer.units.units,
      unit.id.stamp ≠ scenarioNumber) (session : Session σ)
    (hparent : scenario.hasParent = false) :
    (scenario.dispatch.isFactory = false →
      (harness.withHost host apart unitsApart).run scenario session =
        harness.run scenario session) ∧
    (scenario.dispatch.isFactory = true →
      ((harness.run scenario session).1.status ≠ .passed ∧
        (harness.run scenario session).2.exchange = session.exchange) ∧
      (((harness.withHost host apart unitsApart).run scenario session).1.status ≠ .passed ∧
        ((harness.withHost host apart unitsApart).run scenario session).2.exchange =
          session.exchange)) := by
  constructor
  · intro hfactory
    rw [run, run, course_withHost hparent hfactory, expectedOwner_withHost hparent]
  · intro hfactory
    exact ⟨run_of_parentless_factory hparent hfactory, run_of_parentless_factory hparent hfactory⟩

end Harness

namespace Bystander

/-- The capability through which a host holds instances. -/
def capability : CodeUnit where
  id := ⟨hostNumber, Plan.bundled "ICommonInterface", .interface, none, [],
    [⟨⟨"commonInterTransfer", .canonical⟩, .abstract, none⟩]⟩
  valid := Declaration.fault?_eq_none_iff.1 (by decide)

/-- A harness over the bundled payload, with a host that declares nothing. -/
def harness : Harness (List String) :=
  .ofHost .empty Harness.apart_empty Files.bundled.store .nothing {} (.constant "secret") .recording

/-- A host that declares a namesake of the payload's capability. -/
def host : Namespace := hostNamespace ⟨[capability], by decide⟩ {}

theorem apart : ∀ layer ∈ host.layers, layer.number ≠ scenarioNumber := by
  simp [host, hostNamespace, Namespace.layers, hostNumber, scenarioNumber]

theorem unitsApart : ∀ layer ∈ host.layers, ∀ unit ∈ layer.units.units,
    unit.id.stamp ≠ scenarioNumber := by
  simp [host, hostNamespace, Namespace.layers, capability, hostNumber, scenarioNumber]

/-- A scenario without a parent, in one of the forms of calling. -/
def scenario (form : CallForm) : Scenario := ⟨.byteBuffer, true, false, form⟩

end Bystander

/-- The namesake changes nothing for a virtual call, and an instance of the payload's class cannot
be held through it. -/
theorem Harness.run_bystander :
    (Bystander.harness.withHost Bystander.host Bystander.apart Bystander.unitsApart).run
        (Bystander.scenario .virtual) ⟨.empty, []⟩ =
      Bystander.harness.run (Bystander.scenario .virtual) ⟨.empty, []⟩ ∧
    ((Bystander.harness.withHost Bystander.host Bystander.apart Bystander.unitsApart).run
        (Bystander.scenario .factoryInterface) ⟨.empty, []⟩).1.status ≠ .passed ∧
    ((Bystander.harness.withHost Bystander.host Bystander.apart Bystander.unitsApart).run
        (Bystander.scenario .factoryInterface) ⟨.empty, []⟩).2.exchange = [] := by
  have hparentless := fun form => @run_withHost_of_parentless _ (Bystander.scenario form)
    Bystander.harness Bystander.host Bystander.apart Bystander.unitsApart ⟨.empty, []⟩ rfl
  exact ⟨(hparentless .virtual).1 rfl, ((hparentless .factoryInterface).2 rfl).2⟩

end Linkage
