import Linkage.Proofs.BundledCalls
import Linkage.Proofs.PredictedOwners
import Linkage.Proofs.StageTraces
import Linkage.Proofs.StorageMedia

/-!
# Predicted statuses

`Scenario.expectedStatus` predicts the status of a scenario from a small table. Here the prediction
is proved for harnesses over a directory with the bundled scripts, whatever the bound on hops from
two up, the settings of handles and the values drawn are, and whatever was run before.

Everything depends on who supplies a name in the namespace of a scenario (`Harness.supplier`): the
host if it is asked first and declares the name, and the scenario's own layer otherwise
(`Harness.load_space`). The bundled names are declared by the payload, and some of them by the host
as well, under another tag (`Bundled.Denotes`), so a scenario is supplied with its family
(`Bundled.Runs.supplied`), and all requests but one are answered. `Bundled.Runs.status_run` and
`Bundled.Runs.owner_run` say what one run comes to; `Bundled.runAll_predicted` carries it through
runs of any length.
-/

namespace Linkage

open Namespace

/-! ## Who supplies a name -/

/-- Whether the host is asked before the scenario's own layer. -/
def Scenario.hostFirst (scenario : Scenario) : Bool :=
  scenario.hasParent && scenario.loader.policy = .parentFirst

/-- The status depends on who is asked first only where the host holds the instance. -/
theorem Scenario.expectedStatus_eq (scenario : Scenario) (settings : Settings) :
    scenario.expectedStatus settings =
      if scenario.dispatch.isFactory && !scenario.hostFirst then .invocationFailure
      else if scenario.dispatch = .interfaceStatic && !settings.interfaceStaticHandles then
        .resolutionFailure
      else .passed := by
  have hlast : (!scenario.hasParent || scenario.loader = .delegateLast) = !scenario.hostFirst := by
    rw [hostFirst]
    cases scenario.hasParent <;> cases scenario.loader <;> rfl
  rw [expectedStatus, hlast]

namespace Namespace

variable {layer above : Layer} {name : QualifiedName} {type : LoadedType}

/-- A root answers with its own types. -/
theorem load_root (h : (root layer).own? name = some type) : (root layer).load name = .ok type := by
  rw [load_eq_ok_iff, loadAfter, if_neg (Nat.not_lt_zero _), own, h]

/-- So does a layer that is asked before what is above it. -/
theorem load_childFirst {parent : Namespace} (hpolicy : layer.policy = .childFirst)
    (h : (child layer parent).own? name = some type) :
    (child layer parent).load name = .ok type := by
  rw [load_eq_ok_iff, loadAfter, if_neg (Nat.not_lt_zero _), hpolicy]
  simp only [h]

/-- A layer below a root that is asked first answers with the root's types, and with its own for the
names that the root does not declare. -/
theorem load_parentFirst (hpolicy : layer.policy = .parentFirst) (hops : 0 < above.maxHops)
    (h : ((root above).own? name).or ((child layer (root above)).own? name) = some type) :
    (child layer (root above)).load name = .ok type := by
  have hroot : loadAfter name (root above) (0 + 1) = (root above).own name := by
    rw [loadAfter, if_neg (Nat.not_lt_of_le hops)]
  rw [load_eq_ok_iff, loadAfter, if_neg (Nat.not_lt_zero _), hpolicy]
  simp only [hroot]
  rw [own]
  cases hown : (root above).own? name with
  | some found =>
    rw [hown] at h
    exact congrArg Except.ok (Option.some.inj h)
  | none =>
    rw [hown, Option.none_or] at h
    simp only [own, h]

end Namespace

namespace Harness

variable {σ : Type} {harness : Harness σ} {scenario : Scenario} {session : Session σ}
  {units : Registry} {above : Layer} {name : QualifiedName} {type : LoadedType}

/-- The namespace that supplies a scenario with a name that the host declares or does not. -/
def supplier (harness : Harness σ) (scenario : Scenario) (units : Registry) (declared : Bool) :
    Namespace :=
  if scenario.hostFirst && declared then harness.host else harness.space scenario units

theorem supplier_of_and_eq_false {declared : Bool}
    (h : (scenario.hostFirst && declared) = false) :
    harness.supplier scenario units declared = harness.space scenario units := by
  rw [supplier, h, if_neg Bool.false_ne_true]

theorem supplier_of_and_eq_true {declared : Bool} (h : (scenario.hostFirst && declared) = true) :
    harness.supplier scenario units declared = harness.host := by
  rw [supplier, h, if_pos rfl]

/-- The namespace of a scenario answers with what the supplier of a name declares. -/
theorem load_space (hroot : harness.host = .root above) (hops : 0 < above.maxHops)
    (h : (harness.supplier scenario units (above.units.contains name)).own? name = some type) :
    (harness.space scenario units).load name = .ok type := by
  cases hparent : scenario.hasParent with
  | false =>
    rw [supplier_of_and_eq_false (by simp [Scenario.hostFirst, hparent])] at h
    rw [space_eq_root hparent] at h ⊢
    exact load_root h
  | true =>
    have hspace := harness.space_eq_child hparent units
    by_cases hlast : scenario.loader = .delegateLast
    · rw [supplier_of_and_eq_false (by simp [Scenario.hostFirst, hlast, LoaderKind.policy]),
        hspace] at h
      rw [hspace]
      exact load_childFirst (by rw [layer_space, hlast]; rfl) h
    · have hpolicy := LoaderKind.policy_eq_parentFirst_iff.2 hlast
      have hfirst : scenario.hostFirst = true := by simp [Scenario.hostFirst, hparent, hpolicy]
      rw [hspace, hroot]
      refine load_parentFirst (by rw [layer_space, hpolicy]) hops ?_
      rw [← hroot, ← hspace]
      cases hdeclared : above.units.contains name with
      | true =>
        rw [hdeclared, supplier_of_and_eq_true (by rw [hfirst]; rfl)] at h
        rw [h, Option.some_or]
      | false =>
        rw [hdeclared, supplier_of_and_eq_false (Bool.and_false _)] at h
        have hmissing : harness.host.own? name = none := by
          rw [own?_eq_none_iff, hroot]
          exact hdeclared
        rw [hmissing, Option.none_or, h]

/-! ## Statuses of failures -/

variable {space : Namespace} {symbol : Symbol}

theorem status_of_unresolved {error : BindingError}
    (hbuild : (harness.build scenario session.cache).1 = .ok space)
    (hresolve :
      (harness.resolver space).resolve (Plan.ofScenario scenario).request = .error error) :
    (harness.run scenario session).1.status = .resolutionFailure := by
  rw [run_eq_of_takes (.unresolved (Prod.ext hbuild rfl) hresolve)]
  rfl

theorem status_of_unfit (hbuild : (harness.build scenario session.cache).1 = .ok space)
    (hresolve : (harness.resolver space).resolve (Plan.ofScenario scenario).request = .ok symbol)
    (unfit : ∃ receiver ∈ symbol.receiver, ¬ receiver.Fit harness.settings.maxHops) :
    (harness.run scenario session).1.status = .invocationFailure := by
  obtain ⟨receiver, hreceiver, hfit⟩ := unfit
  have hprepare : symbol.prepare harness.caller.maxHops ≠ .ok () := fun h =>
    hfit (Symbol.prepare_eq_ok_iff.1 h receiver hreceiver)
  obtain ⟨error, hinvoke⟩ :=
    Caller.invoke_of_prepare_ne_ok hprepare canonicalArguments session.exchange
  rw [run_eq_of_takes (.uninvoked (Prod.ext hbuild rfl) hresolve hinvoke)]
  rfl

/-- The caches that runs lead to are caches that lookups lead to. -/
theorem Filled.reached {cache : Cache} (filled : harness.Filled cache) : cache.Reached := by
  induction filled with
  | empty => exact .empty
  | run _ scenario ih => exact reached_of_run ih

end Harness

namespace Bundled

open Harness

/-! ## Bundled names -/

/-- The mark of the units that answer, if it is known whether the host does. -/
def answeringMark (hostAnswers : Bool) : Mark := if hostAnswers then .host else .payload

/-- Whether a name denotes a unit in the payload, and in the host as well or not at all. -/
structure Denotes (name : QualifiedName) (declared : Bool) (unit : Mark → CodeUnit) : Prop where
  payload : payloadUnits.lookup? name = some (unit .payload)
  host : hostUnits.lookup? name = if declared then some (unit .host) else none

theorem denotes_calledClass (collision : Bool) :
    Denotes (Plan.bundled (targets collision).type) collision (calledClass collision) := by
  constructor <;> cases collision <;> decide +kernel

theorem denotes_parentClass (collision : Bool) :
    Denotes (Plan.bundled (targets collision).parent) collision (parentClass collision) := by
  constructor <;> cases collision <;> decide +kernel

theorem denotes_capability (collision : Bool) :
    Denotes (Plan.bundled (targets collision).capability) collision (capability collision) := by
  constructor <;> cases collision <;> decide +kernel

theorem denotes_sharedInterface :
    Denotes (Plan.bundled "ICommonInterface") true sharedInterface := by
  constructor <;> decide +kernel

theorem denotes_sharedClass : Denotes (Plan.bundled "PCommon") true sharedClass := by
  constructor <;> decide +kernel

variable {σ φ : Type} {harness : Harness σ} {scenario : Scenario} {name : QualifiedName}
  {declared outer : Bool} {unit : Mark → CodeUnit} {d : Directory φ} {files : φ}
  {session : Session σ}

theorem Denotes.contains (denotes : Denotes name declared unit) :
    hostUnits.contains name = declared := by
  rw [Registry.contains, denotes.host]
  cases declared <;> rfl

/-! ## Harnesses over bundled scripts -/

/-- Whether a harness was made over a directory with the bundled scripts, under the default tags. -/
structure Runs (harness : Harness σ) (d : Directory φ) (files : φ) : Prop where
  made : ofStore (d.store files) (d.system.read files) harness.settings harness.source
    harness.sink = .ok harness
  takes : harness.TakesFrom d files
  host : harness.host = hostNamespace hostUnits harness.settings
  payload_bytes : d.bytes files harness.settings.payloadName = .ok payloadText.toUTF8
  host_tag : harness.settings.hostTag = Mark.host.tag
  payload_tag : harness.settings.payloadTag = Mark.payload.tag

/-- A directory with the bundled scripts makes a harness. -/
theorem exists_runs {settings : Settings} (source : Source σ) (sink : Sink σ)
    (hhost : d.bytes files hostName = .ok hostText.toUTF8)
    (hpayload : d.bytes files settings.payloadName = .ok payloadText.toUTF8)
    (hhostTag : settings.hostTag = "MainAPK") (hpayloadTag : settings.payloadTag = "A") :
    ∃ harness,
      ofStore (d.store files) (d.system.read files) settings source sink = .ok harness ∧
      Runs harness d files ∧ harness.settings = settings ∧ harness.source = source := by
  have apart : ∀ unit ∈ hostUnits.units, unit.id.stamp ≠ scenarioNumber := by decide +kernel
  have hmade : ofStore (d.store files) (d.system.read files) settings source sink = .ok _ :=
    ofStore_eq_ok_iff.2 ⟨hostText.toUTF8, hostUnits, apart, hhost, registry_hostText, rfl⟩
  exact ⟨_, hmade, ⟨hmade, ⟨rfl, rfl⟩, rfl, hpayload, hhostTag, hpayloadTag⟩, rfl, rfl⟩

namespace Runs

theorem own?_supplier (runs : Runs harness d files) (denotes : Denotes name declared unit) :
    (harness.supplier scenario payloadUnits declared).own? name =
      some ⟨unit (answeringMark (scenario.hostFirst && declared)),
        harness.supplier scenario payloadUnits declared⟩ := by
  cases hanswers : scenario.hostFirst && declared with
  | true =>
    obtain ⟨-, hdeclared⟩ := Bool.and_eq_true_iff.1 hanswers
    have hlookup := denotes.host
    rw [hdeclared, if_pos rfl] at hlookup
    rw [supplier_of_and_eq_true hanswers, runs.host, hostNamespace, own?, Namespace.layer, hlookup]
    rfl
  | false =>
    rw [supplier_of_and_eq_false hanswers, own?, layer_space, denotes.payload]
    rfl

/-- A bundled name is loaded from its supplier, by the scenario's namespace and by the supplier of
any name that the host does not declare rather than this one. -/
theorem load_supplier (runs : Runs harness d files) (hops : 0 < harness.settings.maxHops)
    (denotes : Denotes name declared unit) (hle : outer = true → declared = true) :
    (harness.supplier scenario payloadUnits outer).load name =
      .ok ⟨unit (answeringMark (scenario.hostFirst && declared)),
        harness.supplier scenario payloadUnits declared⟩ := by
  have hown : (harness.supplier scenario payloadUnits declared).own? name = some _ :=
    runs.own?_supplier denotes
  cases hanswers : scenario.hostFirst && outer with
  | true =>
    -- the outer supplier is the host, and what it declares is supplied by the host too
    obtain ⟨-, houter⟩ := Bool.and_eq_true_iff.1 hanswers
    have hroot : harness.supplier scenario payloadUnits outer = harness.host :=
      supplier_of_and_eq_true hanswers
    rw [hle houter, ← houter, hroot, runs.host] at hown
    rw [hle houter, ← houter, hroot, runs.host]
    exact load_root hown
  | false =>
    rw [supplier_of_and_eq_false hanswers]
    refine load_space runs.host hops ?_
    rw [denotes.contains]
    exact hown

/-- A scenario is supplied with its family, and with the types that both families share. -/
theorem supplied (runs : Runs harness d files) (hops : 0 < harness.settings.maxHops)
    (scenario : Scenario) :
    Supplied (harness.space scenario payloadUnits)
      (harness.supplier scenario payloadUnits scenario.collision)
      (harness.supplier scenario payloadUnits true) scenario.collision
      (answeringMark (scenario.hostFirst && scenario.collision))
      (answeringMark (scenario.hostFirst && true)) := by
  have hspace : harness.space scenario payloadUnits =
      harness.supplier scenario payloadUnits false :=
    (supplier_of_and_eq_false (Bool.and_false _)).symm
  rw [hspace]
  constructor
  case called => exact runs.load_supplier hops (denotes_calledClass _) nofun
  case capability => exact runs.load_supplier hops (denotes_capability _) nofun
  case parent_above => exact runs.load_supplier hops (denotes_parentClass _) id
  case capability_above => exact runs.load_supplier hops (denotes_capability _) id
  case interface_above => exact runs.load_supplier hops denotes_sharedInterface fun _ => rfl
  case class_above => exact runs.load_supplier hops denotes_sharedClass fun _ => rfl

/-- The host has the shared types at hand. -/
theorem held (runs : Runs harness d files) (space : Namespace) :
    Held (harness.resolver space) .host := by
  have hload : ∀ {name unit}, Denotes name true unit →
      harness.host.load name = .ok ⟨unit .host, harness.host⟩ := by
    intro name unit denotes
    rw [runs.host]
    refine load_root ?_
    rw [own?]
    exact congrArg _ denotes.host
  exact ⟨hload denotes_sharedInterface, hload denotes_sharedClass⟩

/-! ## One run -/

theorem build (runs : Runs harness d files) (filled : harness.Filled session.cache)
    (scenario : Scenario) :
    (harness.build scenario session.cache).1 = .ok (harness.space scenario payloadUnits) := by
  rw [fst_build, filled.consistent.payloadUnits_directory runs.takes, runs.payload_bytes,
    Except.ok_bind, registry_payloadText]
  rfl

theorem expectedOwner (runs : Runs harness d files) (scenario : Scenario) :
    harness.expectedOwner scenario =
      (answeringMark (scenario.hostFirst && scenario.collision)).tag := by
  have hcontains : hostUnits.contains (Plan.ofScenario scenario).answering =
      scenario.collision := by
    obtain ⟨loader, collision, hasParent, form⟩ := scenario
    cases form with
    | extended => exact (denotes_parentClass collision).contains
    | interface =>
      -- the class itself should answer in one family, its capability in the other
      have hanswering : (Plan.ofScenario ⟨loader, collision, hasParent, .interface⟩).answering =
          if collision then Plan.bundled (targets collision).type
          else Plan.bundled (targets collision).capability := rfl
      rw [hanswering]
      cases collision with
      | true => exact (denotes_calledClass true).contains
      | false => exact (denotes_capability false).contains
    | interfaceStatic => exact (denotes_capability collision).contains
    | _ => exact (denotes_calledClass collision).contains
  have hunits : harness.host.layer.units = hostUnits := by rw [runs.host]; rfl
  have hanswers : hostAnswers scenario (Plan.ofScenario scenario).answering hostUnits =
      (scenario.hostFirst && scenario.collision) := by
    rw [hostAnswers, hcontains, Scenario.hostFirst]
  rw [Harness.expectedOwner, hunits, Linkage.expectedOwner, hanswers, runs.host_tag,
    runs.payload_tag, answeringMark, apply_ite Mark.tag]

/-- What a scenario asks for is answered under the tag of its family, unless it needs handles that
there are none of. -/
theorem answers (runs : Runs harness d files) (hops : 2 ≤ harness.settings.maxHops)
    (scenario : Scenario)
    (handles : scenario.dispatch = .interfaceStatic →
      harness.settings.interfaceStaticHandles = true) :
    (harness.resolver (harness.space scenario payloadUnits)).Answers
      (Plan.ofScenario scenario).request
      (answeringMark (scenario.hostFirst && scenario.collision)).tag
      (receiver?
        ⟨calledClass scenario.collision (answeringMark (scenario.hostFirst && scenario.collision)),
          harness.supplier scenario payloadUnits scenario.collision⟩
        harness.host .host scenario.dispatch) :=
  (runs.supplied (Nat.lt_of_succ_lt hops) scenario).answers hops (runs.held _) scenario.loader
    scenario.hasParent scenario.dispatch handles

/-- Where the host holds the instance and is not asked first, the types it holds are not those that
the class knows. -/
theorem status_of_unheld (runs : Runs harness d files) (hops : 2 ≤ harness.settings.maxHops)
    (filled : harness.Filled session.cache) (hfactory : scenario.dispatch.isFactory = true)
    (hlast : scenario.hostFirst = false) :
    (harness.run scenario session).1.status = .invocationFailure := by
  have supplied := runs.supplied (Nat.lt_of_succ_lt hops) scenario
  obtain ⟨symbol, hresolve, -, hreceiver⟩ := runs.answers hops scenario fun hform => by
    rw [hform] at hfactory
    cases hfactory
  -- whoever supplies the class and what is above it, it is not the host
  have hapart : ∀ declared,
      (answeringMark (scenario.hostFirst && declared)).stamp ≠ Mark.host.stamp := by
    intro declared
    rw [hlast, Bool.false_and]
    decide
  refine status_of_unfit (runs.build filled scenario) hresolve ?_
  rw [hreceiver]
  exact supplied.not_fit hops (hapart _) (hapart _) hfactory

/-- Without handles, the static member of the capability is not bound. -/
theorem status_of_unsupported (runs : Runs harness d files) (hops : 2 ≤ harness.settings.maxHops)
    (filled : harness.Filled session.cache) (hform : scenario.dispatch = .interfaceStatic)
    (hhandles : harness.settings.interfaceStaticHandles = false) :
    (harness.run scenario session).1.status = .resolutionFailure := by
  have hrequest : (Plan.ofScenario scenario).request = Plan.asking
      (Plan.bundled (targets scenario.collision).capability) "staticInterfaceTransfer"
      .interfaceStatic := by
    rw [Plan.ofScenario, hform]
    rfl
  have hhandles : (harness.resolver
      (harness.space scenario payloadUnits)).interfaceStaticHandles = false := hhandles
  have supplied : Supplied (harness.resolver (harness.space scenario payloadUnits)).space
      _ _ _ _ _ := runs.supplied (Nat.lt_of_succ_lt hops) scenario
  have hresolve := supplied.resolve_interfaceStatic
  rw [hhandles, if_neg Bool.false_ne_true, ← hrequest] at hresolve
  exact status_of_unresolved (runs.build filled scenario) hresolve

/-- In all other cases the scenario passes. -/
theorem status_of_supported (runs : Runs harness d files) (hops : 2 ≤ harness.settings.maxHops)
    (draws : ∀ state, (harness.source.draw state).1 ≠ "") (filled : harness.Filled session.cache)
    (hfirst : scenario.dispatch.isFactory = true → scenario.hostFirst = true)
    (handles : scenario.dispatch = .interfaceStatic →
      harness.settings.interfaceStaticHandles = true) :
    (harness.run scenario session).1.status = .passed := by
  have supplied := runs.supplied (Nat.lt_of_succ_lt hops) scenario
  obtain ⟨symbol, hresolve, hbody, hreceiver⟩ := runs.answers hops scenario handles
  refine (passed_iff runs.made filled.reached).2
    ⟨_, symbol, runs.build filled scenario, hresolve, ?_, ?_, ?_, draws _⟩
  · rw [hreceiver]
    refine supplied.fit hops fun hfactory => ?_
    rw [hfirst hfactory]
    rfl
  · rw [runs.expectedOwner, hbody]
  · rw [runs.expectedOwner, answeringMark]
    split <;> decide

/-- A scenario comes to the status that is predicted for it. -/
theorem status_run (runs : Runs harness d files) (hops : 2 ≤ harness.settings.maxHops)
    (draws : ∀ state, (harness.source.draw state).1 ≠ "") (filled : harness.Filled session.cache)
    (scenario : Scenario) :
    (harness.run scenario session).1.status = scenario.expectedStatus harness.settings := by
  rw [Scenario.expectedStatus_eq]
  split
  · next hunheld =>
    simp only [Bool.and_eq_true, Bool.not_eq_true'] at hunheld
    exact runs.status_of_unheld hops filled hunheld.1 hunheld.2
  · next hheld =>
    split
    · next hunsupported =>
      simp only [Bool.and_eq_true, decide_eq_true_eq, Bool.not_eq_true'] at hunsupported
      exact runs.status_of_unsupported hops filled hunsupported.1 hunsupported.2
    · next hsupported =>
      refine runs.status_of_supported hops draws filled ?_ ?_
      · intro hfactory
        simpa [hfactory] using hheld
      · intro hform
        simpa [hform] using hsupported

/-- A scenario that passes is answered by the host exactly when the called class exists in the host
and the host is asked first. -/
theorem owner_run (runs : Runs harness d files) (scenario : Scenario) (session : Session σ)
    (hpassed : (harness.run scenario session).1.status = .passed) :
    (harness.run scenario session).1.actualOwner =
      some (if scenario.collision ∧ scenario.hasParent ∧ scenario.loader ≠ .delegateLast
        then "MainAPK" else "A") := by
  have howner := ((coherent_run harness scenario session).passed_owner hpassed).1
  have hexpected : (harness.run scenario session).1.expectedOwner =
      harness.expectedOwner scenario := rfl
  rw [howner, hexpected, runs.expectedOwner, answeringMark, Scenario.hostFirst]
  congr 1
  cases scenario.collision <;> cases scenario.hasParent <;> cases scenario.loader <;> rfl

end Runs

/-! ## Runs of several scenarios -/

/-- A directory with the bundled scripts makes a harness, whatever file system it is in, and its
runs come to what is predicted. The names are those of the settings, the tags the default ones. With
a bound on hops from two up, with handles or without, and with a source that never draws an empty
value, scenarios that are run one after another, whatever was run before, have one outcome each, in
order, with the status that is predicted for the scenario. Those that pass are answered by the host
exactly when the called class exists in the host and the host is there and is asked first, and by the
payload otherwise. -/
theorem runAll_predicted (settings : Settings) (source : Source σ) (sink : Sink σ)
    (hhost : d.bytes files hostName = .ok hostText.toUTF8)
    (hpayload : d.bytes files settings.payloadName = .ok payloadText.toUTF8)
    (hhostTag : settings.hostTag = "MainAPK") (hpayloadTag : settings.payloadTag = "A")
    (hops : 2 ≤ settings.maxHops) (draws : ∀ state, (source.draw state).1 ≠ "") :
    ∃ harness,
      ofStore (d.store files) (d.system.read files) settings source sink = .ok harness ∧
      ∀ {ρ : Type} (report : ρ → Outcome → ρ) (scenarios : List Scenario) (log : ρ)
        (session : Session σ), harness.Filled session.cache →
        let outcomes := (harness.runAll report scenarios log session).1
        outcomes.map (fun outcome => (outcome.scenario, outcome.status)) =
          scenarios.map (fun scenario => (scenario, scenario.expectedStatus settings)) ∧
        ∀ outcome ∈ outcomes, outcome.status = .passed →
          outcome.actualOwner = some (if outcome.scenario.collision ∧
              outcome.scenario.hasParent ∧ outcome.scenario.loader ≠ .delegateLast
            then "MainAPK" else "A") := by
  obtain ⟨harness, hmade, runs, rfl, rfl⟩ :=
    exists_runs source sink hhost hpayload hhostTag hpayloadTag
  refine ⟨harness, hmade, fun report scenarios log session filled => ?_⟩
  -- a run leaves a cache that runs have filled, so the next one may start with it
  induction scenarios generalizing log session with
  | nil =>
    refine ⟨rfl, ?_⟩
    intro outcome houtcome
    exact absurd houtcome List.not_mem_nil
  | cons scenario scenarios ih =>
    have hscenario : (harness.run scenario session).1.scenario = scenario := rfl
    have hstatus := runs.status_run hops draws filled scenario
    obtain ⟨hstatuses, howners⟩ :=
      ih (report log (harness.run scenario session).1) (harness.run scenario session).2
        (filled.run scenario)
    have howner := runs.owner_run scenario session
    rw [← hscenario] at howner
    rw [runAll_cons]
    dsimp only
    refine ⟨?_, List.forall_mem_cons.2 ⟨howner, howners⟩⟩
    rw [List.map_cons, List.map_cons, hstatuses, hstatus, hscenario]

end Bundled

/-! ## A directory with the scripts -/

namespace Depot

open Bundled

/-- The files of the disk are the scripts, in the directory. -/
theorem files_disk :
    disk.files = (Files.empty.put ["payloads", hostName] hostText.toUTF8).put
      ["payloads", payloadName] payloadText.toUTF8 := rfl

theorem get?_hostName : disk.files.get? ["payloads", hostName] = some hostText.toUTF8 := by
  rw [files_disk, Files.get?_put, if_neg (by decide), Files.get?_put, if_pos rfl]

theorem get?_payloadName :
    disk.files.get? ["payloads", payloadName] = some payloadText.toUTF8 := by
  rw [files_disk, Files.get?_put, if_pos rfl]

/-- A name that leads to an entry of the directory stands for what the file under it holds. -/
theorem bytes_of_entry {name : String} {contents : ByteArray}
    (hlanding : disk.landing (directory.pathOf name) = .ok (.entry ["payloads"] name))
    (hshort : name.utf8ByteSize ≤ longestName)
    (hfile : disk.files.get? ["payloads", name] = some contents) :
    directory.bytes disk name = .ok contents := by
  have hread : disk.read (directory.pathOf name) = .ok contents := by
    rw [Disk.read, hlanding]
    show disk.lookUp ["payloads"] name = _
    rw [Disk.lookUp, if_neg (Nat.not_lt_of_le hshort), List.singleton_append, hfile]
  have hsystem : directory.system = Disk.system := rfl
  rw [Directory.bytes, Directory.path, hsystem]
  simp [Disk.system, hread, Reading.contents, Except.toOption, Except.mapError]

theorem bytes_hostName : directory.bytes disk hostName = .ok hostText.toUTF8 :=
  bytes_of_entry (Except.toOption_eq_some_iff.1 (by decide +kernel)) (by decide +kernel)
    get?_hostName

theorem bytes_payloadName : directory.bytes disk payloadName = .ok payloadText.toUTF8 :=
  bytes_of_entry (Except.toOption_eq_some_iff.1 (by decide +kernel)) (by decide +kernel)
    get?_payloadName

/-- A scenario in which the host's class is called. -/
def shadowed : Scenario := ⟨.byteBuffer, true, true, .virtual⟩

/-- A scenario in which the host is to hold an instance, but is asked last. -/
def unheld : Scenario := ⟨.delegateLast, true, true, .factoryExtend⟩

/-- The least bound on hops that is enough. -/
def settings : Settings := { maxHops := 2 }

end Depot

/-- A scenario that fails does not bear on the next one, and the least bound is enough for both. -/
theorem Bundled.statuses_depot : ∃ harness,
    Harness.ofStore (Depot.directory.store Depot.disk) (Disk.system.read Depot.disk) Depot.settings
      (.constant "secret") .recording = .ok harness ∧
    (harness.runAll Report.add [Depot.unheld, Depot.shadowed] .empty ⟨.empty, []⟩).1.map
      Outcome.status = [.invocationFailure, .passed] := by
  have draws : ∀ state : List String, ((Source.constant "secret").draw state).1 ≠ "" := by
    simp [Source.constant]
  obtain ⟨harness, hmade, hruns⟩ := runAll_predicted Depot.settings (.constant "secret") .recording
    Depot.bytes_hostName Depot.bytes_payloadName rfl rfl (Nat.le_refl 2) draws
  obtain ⟨hstatuses, -⟩ :=
    hruns Report.add [Depot.unheld, Depot.shadowed] .empty ⟨.empty, []⟩ .empty
  refine ⟨harness, hmade, ?_⟩
  have hsecond := congrArg (List.map Prod.snd) hstatuses
  rw [List.map_map, List.map_map] at hsecond
  exact hsecond

end Linkage
