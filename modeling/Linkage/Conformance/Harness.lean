import Linkage.Binding.Resolve
import Linkage.Conformance.Outcome
import Linkage.Repository.Cache

/-!
# The harness

A harness runs scenarios against one host and one store. The host is built once and shared; every
scenario has a layer of its own, under a number that no layer of the host has, and units of its own,
under a stamp that no unit of the host has. What a run changes is its session: the parse cache, and
whatever state the source and the sink keep.
-/

namespace Linkage

/-- The number of the layer of a scenario, and the stamp of its units. -/
def scenarioNumber : Nat := 0

/-- The number of the host's layer, and the stamp of its units. -/
def hostNumber : Nat := 1

/-- The namespace of a host: a root that asks nobody else. -/
def hostNamespace (units : Registry) (settings : Settings) : Namespace :=
  .root ⟨hostNumber, "host", .isolated, units, settings.maxHops⟩

/-- What scenarios are run with. -/
structure Harness (σ : Type) where
  settings : Settings
  host : Namespace
  store : Store
  /-- What reading the paths comes to that the store hands out. -/
  reading : Reading
  source : Source σ
  sink : Sink σ
  host_apart : ∀ layer ∈ host.layers, layer.number ≠ scenarioNumber
  host_units_apart : ∀ layer ∈ host.layers, ∀ unit ∈ layer.units.units,
    unit.id.stamp ≠ scenarioNumber

/-- What the runs of a harness leave behind. -/
structure Session (σ : Type) where
  cache : Cache
  exchange : σ

namespace Harness

variable {σ : Type}

/-- A harness whose host declares the given units. -/
def ofHost (units : Registry) (apart : ∀ unit ∈ units.units, unit.id.stamp ≠ scenarioNumber)
    (store : Store) (reading : Reading) (settings : Settings) (source : Source σ)
    (sink : Sink σ) : Harness σ where
  settings := settings
  host := hostNamespace units settings
  store := store
  reading := reading
  source := source
  sink := sink
  host_apart := by simp [hostNamespace, Namespace.layers, hostNumber, scenarioNumber]
  host_units_apart := by simpa [hostNamespace, Namespace.layers] using apart

/-- A host without units has none of a scenario's. -/
theorem apart_empty : ∀ unit ∈ Registry.empty.units, unit.id.stamp ≠ scenarioNumber := nofun

/-- The units that a host's declarations make are not those of a scenario. -/
theorem apart_of_register {declarations : List Declaration} {units : Registry}
    (h : Payload.register hostNumber declarations = .ok units) :
    ∀ unit ∈ units.units, unit.id.stamp ≠ scenarioNumber := by
  intro unit hunit hstamp
  rw [Payload.register] at h
  cases hmade : Registry.ofDeclarations hostNumber declarations with
  | error error =>
    rw [hmade] at h
    cases h
  | ok made =>
    rw [hmade] at h
    cases h
    obtain ⟨d, -, hid⟩ := Registry.id_of_mem_ofDeclarations hmade unit hunit
    rw [hid] at hstamp
    cases hstamp

/-- A harness whose host declares what a list of declarations says. -/
def ofDeclarations (declarations : List Declaration) (store : Store) (reading : Reading)
    (settings : Settings) (source : Source σ) (sink : Sink σ) : Except PayloadError (Harness σ) :=
  match h : Payload.register hostNumber declarations with
  | .ok units => .ok (ofHost units (apart_of_register h) store reading settings source sink)
  | .error error => .error error

/-- A harness whose host declares what the store's host payload says. -/
def ofStore (store : Store) (reading : Reading) (settings : Settings) (source : Source σ)
    (sink : Sink σ) : Except PayloadError (Harness σ) := do
  let bytes ← store.bytes Bundled.hostName
  ofDeclarations (← Payload.declarations bytes) store reading settings source sink

variable (harness : Harness σ)

/-- The units of a scenario's own layer. -/
def payloadUnits (loader : LoaderKind) (cache : Cache) : Except PayloadError Registry × Cache :=
  let name := harness.settings.payloadName
  match loader with
  | .byteBuffer => (harness.store.bytes name >>= Payload.registry scenarioNumber, cache)
  | .cachedPath => match harness.store.path name with
    | .error error => (.error error, cache)
    | .ok path =>
      let (declarations, cache) := cache.getOrParse path (harness.reading.contents path)
      (declarations >>= Payload.register scenarioNumber, cache)
  | .uncachedPath | .delegateLast =>
    (harness.store.path name >>= harness.reading.declarations >>= Payload.register scenarioNumber,
      cache)

/-- The namespace of a scenario with the given units. -/
def space (scenario : Scenario) (units : Registry) : Namespace :=
  Namespace.ofLayer
    ⟨scenarioNumber, scenario.loader.word, scenario.loader.policy, units, harness.settings.maxHops⟩
    (if scenario.hasParent then some harness.host else none)

/-- Build the namespace of a scenario. -/
def build (scenario : Scenario) (cache : Cache) : Except PayloadError Namespace × Cache :=
  let (units, cache) := harness.payloadUnits scenario.loader cache
  (units.map (harness.space scenario), cache)

/-- The resolver of a scenario: the host is the caller. -/
def resolver (space : Namespace) : Resolver :=
  ⟨space, harness.host, harness.settings.interfaceStaticHandles, harness.settings.maxHops⟩

/-- How the members of scenarios are called. -/
def caller : Caller σ := ⟨harness.source, harness.sink, harness.settings.maxHops⟩

/-- The owner a scenario should be answered by. -/
def expectedOwner (scenario : Scenario) : String :=
  Linkage.expectedOwner scenario (Plan.ofScenario scenario).answering harness.host.layer.units
    harness.settings

/-- Let a scenario take its course. -/
def course (scenario : Scenario) (session : Session σ) : Course × Session σ :=
  match harness.build scenario session.cache with
  | (.error error, cache) => (.unbuilt error, { session with cache := cache })
  | (.ok space, cache) =>
    match (harness.resolver space).resolve (Plan.ofScenario scenario).request with
    | .error error => (.unresolved error, { session with cache := cache })
    | .ok symbol =>
      match harness.caller.invoke symbol canonicalArguments session.exchange with
      | (.error error, exchange) => (.uninvoked error, ⟨cache, exchange⟩)
      | (.ok invocation, exchange) =>
        let verdict := Verdict.ofInvocation invocation symbol.member.key.signature
        (.answered verdict (verdict.check (harness.expectedOwner scenario)), ⟨cache, exchange⟩)

/-- Run one scenario. -/
def run (scenario : Scenario) (session : Session σ) : Outcome × Session σ :=
  let (course, session) := harness.course scenario session
  (course.outcome scenario (harness.expectedOwner scenario), session)

/-- Run scenarios one after another and report each outcome as it comes. -/
def runAll {ρ : Type} (report : ρ → Outcome → ρ) :
    List Scenario → ρ → Session σ → List Outcome × ρ × Session σ
  | [], log, session => ([], log, session)
  | scenario :: rest, log, session =>
    let (outcome, session) := harness.run scenario session
    let (outcomes, log, session) := runAll report rest (report log outcome) session
    (outcome :: outcomes, log, session)

end Harness

end Linkage
