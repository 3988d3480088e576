import Linkage.Proofs.BoundSymbols
import Linkage.Proofs.Courses
import Linkage.Proofs.ParsedUnits

/-!
# The namespaces of scenarios

Everything that a scenario can bind was parsed: the host's units from the store's host payload, the
scenario's own units from its payload, be it now or at an earlier time for a cache that was filled
since (`Cache.Reached`). A property of parsed units is therefore a property of every body that a
scenario's resolver answers with; `Harness.unquoted_of_resolve` states it for the quotes in body
texts.
-/

namespace Linkage

/-! ## Caches -/

/-- The caches that lookups lead to, from the one that has seen nothing. What stands behind a path
may be different at every lookup. -/
inductive Cache.Reached : Cache → Prop where
  | empty : Cache.Reached .empty
  | lookup {cache : Cache} (earlier : Cache.Reached cache) (path : String)
      (contents : Except PayloadError ByteArray) :
      Cache.Reached (cache.getOrParse path contents).2

namespace Cache

variable {cache : Cache} {path : String} {contents : Except PayloadError ByteArray}

/-- What is kept for a path stands in an entry. -/
theorem exists_entry_of_find? {declarations : List Declaration}
    (h : cache.find? path = some declarations) : ∃ entry ∈ cache.entries, entry.2 = declarations := by
  obtain ⟨entry, hentry, hkept⟩ := Option.map_eq_some_iff.1 h
  exact ⟨entry, List.mem_of_find?_eq_some hentry, hkept⟩

/-- Whether all declarations a cache keeps have bodies without double quotes. -/
def Unquoted (cache : Cache) : Prop := ∀ entry ∈ cache.entries, ∀ d ∈ entry.2, d.Unquoted

/-- A lookup answers with declarations without quotes, and leaves no others behind. -/
theorem Unquoted.getOrParse (h : cache.Unquoted) :
    (∀ declarations, (cache.getOrParse path contents).1 = .ok declarations →
      ∀ d ∈ declarations, d.Unquoted) ∧ (cache.getOrParse path contents).2.Unquoted := by
  rcases getOrParse_cases cache path contents with
    ⟨kept, hfound, heq⟩ | ⟨error, -, -, heq⟩ | ⟨parsed, new, hparsed, heq⟩
  · obtain ⟨entry, hentry, rfl⟩ := exists_entry_of_find? hfound
    rw [heq]
    refine ⟨?_, h⟩
    rintro _ ⟨⟩
    exact h entry hentry
  · rw [heq]
    refine ⟨?_, h⟩
    rintro _ ⟨⟩
  · rw [heq]
    obtain ⟨bytes, -, hbytes⟩ := Except.bind_eq_ok_iff.1 hparsed
    have hunquoted := Payload.unquoted_of_declarations hbytes
    refine ⟨?_, List.forall_mem_cons.2 ⟨hunquoted, h⟩⟩
    rintro _ ⟨⟩
    exact hunquoted

theorem Reached.unquoted (h : cache.Reached) : cache.Unquoted := by
  induction h with
  | empty =>
    intro entry hentry
    cases hentry
  | lookup earlier path contents ih => exact ih.getOrParse.2

end Cache

/-! ## Namespaces -/

/-- Whether all units in the layers of a namespace have bodies without double quotes. -/
def Namespace.Unquoted (space : Namespace) : Prop := ∀ layer ∈ space.layers, layer.units.Unquoted

/-- The layer of a visible namespace is one of the layers. -/
theorem Namespace.layer_mem_layers {space other : Namespace} (h : other ∈ space.visible) :
    other.layer ∈ space.layers := by
  induction space with
  | root layer =>
    rw [visible, List.mem_singleton] at h
    rw [h]
    exact List.mem_cons_self
  | child layer parent ih =>
    rw [visible, List.mem_cons] at h
    rcases h with rfl | h
    · exact List.mem_cons_self
    · split at h
      · cases h
      · exact List.mem_cons_of_mem _ (ih h)

/-- The body of a symbol is that of a unit of the namespace. -/
theorem Symbol.Sound.unquoted {symbol : Symbol} {key : MemberKey} {space : Namespace}
    (h : symbol.Sound key space) (hspace : space.Unquoted) : symbol.body.Unquoted := by
  have hlayer := Namespace.layer_mem_layers h.owner_within.home_visible
  have hmember := (CodeUnit.mem_and_key_of_member? h.member_declared).1
  exact hspace _ hlayer _ h.owner_within.mem_units _ hmember _ h.body_declared

namespace Harness

variable {σ : Type} {harness : Harness σ} {scenario : Scenario} {session : Session σ}

/-! ## Hosts and scenarios -/

/-- The layer in front of a scenario's namespace is the scenario's own. -/
theorem layer_space (units : Registry) :
    (harness.space scenario units).layer =
      ⟨scenarioNumber, scenario.loader.word, scenario.loader.policy, units,
        harness.settings.maxHops⟩ :=
  Namespace.layer_ofLayer _ _

/-- Without a host above it, a scenario's namespace is a root. -/
theorem space_eq_root (h : scenario.hasParent = false) (units : Registry) :
    harness.space scenario units = .root (harness.space scenario units).layer := by
  rw [Harness.space, h]
  rfl

/-- With the host above it, a scenario's namespace is one layer below the host. -/
theorem space_eq_child (h : scenario.hasParent = true) (units : Registry) :
    harness.space scenario units =
      .child (harness.space scenario units).layer harness.host := by
  rw [Harness.space, h]
  rfl

/-- The unit of a type that the host can see is none of a scenario's own. -/
theorem stamp_ne_of_within_host {type : LoadedType} (h : type.Within harness.host) :
    type.unit.id.stamp ≠ scenarioNumber :=
  harness.host_units_apart _ (Namespace.layer_mem_layers h.home_visible) _ h.mem_units

/-- A scenario's namespace is not its host. -/
theorem space_ne_host (units : Registry) : harness.space scenario units ≠ harness.host := by
  intro h
  have hapart := harness.host_apart _ (Namespace.layer_mem_layers harness.host.mem_visible)
  rw [← h, layer_space] at hapart
  exact hapart rfl

/-- The owner of the symbol that a scenario comes to is reached from the type it asks for. -/
theorem exists_load_of_resolve {space : Namespace} {request : Request} {symbol : Symbol}
    (h : (harness.resolver space).resolve request = .ok symbol) :
    ∃ target, space.load request.type = .ok target ∧ target.Reaches symbol.owner := by
  obtain ⟨target, hload, -, hreached⟩ := Resolver.exists_target_of_resolve h
  exact ⟨target, hload, hreached.owner_reached⟩

/-! ## Bodies -/

/-- A harness of declarations has the units that are registered for them as its host. -/
theorem ofDeclarations_eq_ok_iff {declarations : List Declaration} {store : Store}
    {reading : Reading} {settings : Settings} {source : Source σ} {sink : Sink σ} :
    ofDeclarations declarations store reading settings source sink = .ok harness ↔
      ∃ units apart, Payload.register hostNumber declarations = .ok units ∧
        harness = ofHost units apart store reading settings source sink := by
  unfold ofDeclarations
  split
  · next units hunits =>
    rw [Except.ok.injEq]
    constructor
    · rintro rfl
      exact ⟨units, _, hunits, rfl⟩
    · rintro ⟨other, apart, hother, rfl⟩
      cases hunits.symm.trans hother
      rfl
  · next error herror =>
    constructor
    · rintro ⟨⟩
    · rintro ⟨units, apart, hunits, -⟩
      cases herror.symm.trans hunits

/-- A harness of a store has the units of the store's host payload as its host. -/
theorem ofStore_eq_ok_iff {store : Store} {reading : Reading} {settings : Settings}
    {source : Source σ} {sink : Sink σ} :
    ofStore store reading settings source sink = .ok harness ↔
      ∃ bytes units apart, store.bytes Bundled.hostName = .ok bytes ∧
        Payload.registry hostNumber bytes = .ok units ∧
        harness = ofHost units apart store reading settings source sink := by
  constructor
  · intro h
    obtain ⟨bytes, hbytes, h⟩ := Except.bind_eq_ok_iff.1 h
    obtain ⟨declarations, hdeclarations, h⟩ := Except.bind_eq_ok_iff.1 h
    obtain ⟨units, apart, hunits, hmade⟩ := ofDeclarations_eq_ok_iff.1 h
    exact ⟨bytes, units, apart, hbytes,
      Except.bind_eq_ok_iff.2 ⟨declarations, hdeclarations, hunits⟩, hmade⟩
  · rintro ⟨bytes, units, apart, hbytes, hunits, hmade⟩
    obtain ⟨declarations, hdeclarations, hunits⟩ := Except.bind_eq_ok_iff.1 hunits
    refine Except.bind_eq_ok_iff.2 ⟨bytes, hbytes, ?_⟩
    exact Except.bind_eq_ok_iff.2
      ⟨declarations, hdeclarations, ofDeclarations_eq_ok_iff.2 ⟨units, apart, hunits, hmade⟩⟩

theorem unquoted_host {store : Store} {reading : Reading} {settings : Settings}
    {source : Source σ} {sink : Sink σ}
    (h : ofStore store reading settings source sink = .ok harness) : harness.host.Unquoted := by
  obtain ⟨bytes, units, apart, -, hunits, rfl⟩ := ofStore_eq_ok_iff.1 h
  intro layer hlayer
  rw [List.mem_singleton.1 hlayer]
  exact Payload.unquoted_of_registry hunits

/-- Fetching the units of a scenario looks into the cache at most once. -/
theorem payloadUnits_reached {cache : Cache} (loader : LoaderKind) (h : cache.Reached) :
    (harness.payloadUnits loader cache).2.Reached := by
  cases loader with
  | cachedPath =>
    rw [payloadUnits]
    split
    · exact h
    · next path _ => exact h.lookup path (harness.reading.contents path)
  | _ => exact h

/-- The units of a scenario are registered for declarations, and these are parsed, now or when they
were kept. -/
theorem exists_declarations_of_payloadUnits {cache : Cache} {loader : LoaderKind} {units : Registry}
    (h : (harness.payloadUnits loader cache).1 = .ok units) :
    ∃ declarations, Payload.register scenarioNumber declarations = .ok units ∧
      ((∃ bytes, Payload.declarations bytes = .ok declarations) ∨
        ∃ path contents, (cache.getOrParse path contents).1 = .ok declarations) := by
  cases loader with
  | byteBuffer =>
    obtain ⟨bytes, -, h⟩ := Except.bind_eq_ok_iff.1 h
    obtain ⟨declarations, hdeclarations, h⟩ := Except.bind_eq_ok_iff.1 h
    exact ⟨declarations, h, Or.inl ⟨bytes, hdeclarations⟩⟩
  | cachedPath =>
    rw [payloadUnits] at h
    split at h
    · cases h
    · next path _ =>
      obtain ⟨declarations, hdeclarations, h⟩ := Except.bind_eq_ok_iff.1 h
      exact ⟨declarations, h, Or.inr ⟨path, _, hdeclarations⟩⟩
  | _ =>
    obtain ⟨declarations, hdeclarations, h⟩ := Except.bind_eq_ok_iff.1 h
    obtain ⟨path, -, hdeclarations⟩ := Except.bind_eq_ok_iff.1 hdeclarations
    obtain ⟨bytes, -, hdeclarations⟩ := Except.bind_eq_ok_iff.1 hdeclarations
    exact ⟨declarations, h, Or.inl ⟨bytes, hdeclarations⟩⟩

theorem unquoted_of_payloadUnits {cache : Cache} {loader : LoaderKind} {units : Registry}
    (hcache : cache.Reached) (h : (harness.payloadUnits loader cache).1 = .ok units) :
    units.Unquoted := by
  obtain ⟨declarations, hunits, ⟨bytes, hparsed⟩ | ⟨path, contents, hkept⟩⟩ :=
    exists_declarations_of_payloadUnits h
  · exact Payload.unquoted_of_register (Payload.unquoted_of_declarations hparsed) hunits
  · exact Payload.unquoted_of_register (hcache.unquoted.getOrParse.1 declarations hkept) hunits

/-- The units of a scenario have its stamp. -/
theorem stamp_of_payloadUnits {cache : Cache} {loader : LoaderKind} {units : Registry}
    (h : (harness.payloadUnits loader cache).1 = .ok units) :
    ∀ unit ∈ units.units, unit.id.stamp = scenarioNumber := by
  obtain ⟨declarations, hunits, -⟩ := exists_declarations_of_payloadUnits h
  intro unit hunit
  obtain ⟨d, -, hid⟩ := Registry.id_of_mem_ofDeclarations (Except.mapError_eq_ok_iff.1 hunits) unit
    hunit
  rw [hid]

/-- The namespace of a scenario is made of its units, when they can be had. -/
theorem fst_build (scenario : Scenario) (cache : Cache) :
    (harness.build scenario cache).1 =
      (harness.payloadUnits scenario.loader cache).1.map (harness.space scenario) := rfl

/-- Units that come as bytes are parsed at once. -/
theorem payloadUnits_byteBuffer (cache : Cache) :
    (harness.payloadUnits .byteBuffer cache).1 =
      (harness.store.bytes harness.settings.payloadName >>= Payload.registry scenarioNumber) := rfl

/-- The namespace of a scenario has the scenario's units in front of the host's. -/
theorem unquoted_of_build {space : Namespace} (hhost : harness.host.Unquoted)
    (hcache : session.cache.Reached) (h : (harness.build scenario session.cache).1 = .ok space) :
    space.Unquoted := by
  rw [fst_build] at h
  obtain ⟨units, hunits, rfl⟩ := Except.map_eq_ok_iff.1 h
  have hown := unquoted_of_payloadUnits hcache hunits
  intro layer hlayer
  rw [Harness.space] at hlayer
  split at hlayer
  · rcases List.mem_cons.1 hlayer with rfl | hlayer
    · exact hown
    · exact hhost layer hlayer
  · rw [List.mem_singleton.1 hlayer]
    exact hown

/-- Whatever a scenario's resolver answers with has a body text without double quotes. -/
theorem unquoted_of_resolve {space : Namespace} {request : Request} {symbol : Symbol}
    (hhost : harness.host.Unquoted) (hcache : session.cache.Reached)
    (hbuild : (harness.build scenario session.cache).1 = .ok space)
    (h : (harness.resolver space).resolve request = .ok symbol) : symbol.body.Unquoted :=
  (Resolver.sound_of_resolve h).unquoted (unquoted_of_build hhost hcache hbuild)

/-- A run leaves a cache behind that lookups lead to. -/
theorem reached_of_run (h : session.cache.Reached) :
    (harness.run scenario session).2.cache.Reached := by
  rw [cache_run]
  exact payloadUnits_reached scenario.loader h

end Harness

end Linkage
