import Linkage.Proofs.IndependentRuns
import Linkage.Proofs.ParentlessScenarios
import Linkage.Proofs.Relabeling

/-!
# Storage media

A payload in a directory can be taken as bytes, as a file that is parsed once, or as a file that is
parsed every time. As long as the cache keeps nothing but what parsing would say again, the three
come to the same units or fail alike (`Harness.Consistent.payloadUnits_directory`). The namespaces
made of them differ in the label alone, and so the runs differ in the places of messages where a
label stands and nowhere else (`Harness.run_of_directory`).
-/

namespace Linkage

/-! ## Courses and outcomes -/

/-- Two courses that are the same but for a label in the failure. -/
inductive Course.Relabeled (old new : String) : Course → Course → Prop where
  | unbuilt (error : PayloadError) : Relabeled old new (.unbuilt error) (.unbuilt error)
  | unresolved {error error' : BindingError} (h : error.Relabeled old new error') :
      Relabeled old new (.unresolved error) (.unresolved error')
  | uninvoked {error error' : CallError} (h : error.Relabeled old new error') :
      Relabeled old new (.uninvoked error) (.uninvoked error')
  | answered (verdict : Verdict) (check : Except Failure Unit) :
      Relabeled old new (.answered verdict check) (.answered verdict check)

/-- Two outcomes that agree in everything but the scenario and a label in the message. -/
structure Outcome.SameButLabel (old new : String) (outcome outcome' : Outcome) : Prop where
  expectedOwner : outcome'.expectedOwner = outcome.expectedOwner
  actualOwner : outcome'.actualOwner = outcome.actualOwner
  argumentsMatched : outcome'.argumentsMatched = outcome.argumentsMatched
  status : outcome'.status = outcome.status
  code : outcome'.code? = outcome.code?
  trace : outcome'.trace = outcome.trace
  message : Option.Rel (Relabeled old new) (outcome.failure.map Failure.message)
    (outcome'.failure.map Failure.message)

namespace Course

variable {old new : String} {course course' : Course}

/-- Courses that are the same but for a label are read as such outcomes. -/
theorem Relabeled.outcome (h : course.Relabeled old new course') (scenario scenario' : Scenario)
    (expected : String) :
    (course.outcome scenario expected).SameButLabel old new
      (course'.outcome scenario' expected) := by
  cases h with
  | unbuilt error => exact ⟨rfl, rfl, rfl, rfl, rfl, rfl, .some (.same _)⟩
  | @unresolved error error' h =>
    have hcode : (Failure.binding error').code = (Failure.binding error).code := h.code
    refine ⟨rfl, rfl, rfl, rfl, congrArg some hcode, ?_, .some h.message⟩
    simp only [Course.outcome, stages, lastStage, failure?, hcode, Failure.status]
  | @uninvoked error error' h =>
    have hcode : (Failure.call error').code = (Failure.call error).code :=
      congrArg CallPhase.code h.phase
    refine ⟨rfl, rfl, rfl, rfl, congrArg some hcode, ?_, .some h.message⟩
    simp only [Course.outcome, stages, lastStage, failure?, hcode, Failure.status]
  | answered verdict check =>
    refine ⟨rfl, rfl, rfl, rfl, rfl, rfl, ?_⟩
    cases check with
    | error failure => exact .some (.same _)
    | ok _ => exact .none

end Course

namespace Harness

variable {σ : Type} {harness : Harness σ} {scenario : Scenario} {cache : Cache}

/-- Whether a harness takes its payloads from a directory, in a state of the directory's file
system. -/
structure TakesFrom {φ : Type} (harness : Harness σ) (d : Directory φ) (files : φ) : Prop where
  store : harness.store = d.store files
  reading : harness.reading = d.system.read files

/-- The units of a payload in a directory are the same on every way to them. -/
theorem Consistent.payloadUnits_directory {φ : Type} (h : harness.Consistent cache)
    {d : Directory φ} {files : φ} (takes : harness.TakesFrom d files) (loader : LoaderKind) :
    (harness.payloadUnits loader cache).1 =
      d.bytes files harness.settings.payloadName >>= Payload.registry scenarioNumber := by
  rw [(h.payloadUnits loader).1]
  -- every way starts with the path, and goes on to read the file that lies there
  have hpath : harness.store.path = d.path files := by rw [takes.store]; rfl
  cases loader with
  | byteBuffer =>
    rw [payloadUnits_byteBuffer, takes.store]
    rfl
  | cachedPath =>
    have hempty := harness.consistent_empty
    rw [Harness.payloadUnits, Directory.bytes]
    cases hfile : harness.store.path harness.settings.payloadName with
    | error error =>
      rw [← hpath, hfile]
      rfl
    | ok path =>
      -- the empty cache has to parse, so what it keeps is what parsing says
      dsimp only
      rw [(hempty path hfile).getOrParse.1, ← hpath, hfile, takes.reading, Except.ok_bind]
      cases Reading.contents (d.system.read files) path <;> rfl
  | _ =>
    rw [Harness.payloadUnits, hpath, takes.reading, Directory.bytes]
    cases d.path files harness.settings.payloadName with
    | error error => rfl
    | ok path =>
      simp only [Except.ok_bind, Reading.declarations]
      cases Reading.contents (d.system.read files) path <;> rfl

theorem space_withLoader {loader : LoaderKind} (hpolicy : loader.policy = scenario.loader.policy)
    (units : Registry) :
    harness.space { scenario with loader := loader } units =
      (harness.space scenario units).withLabel loader.word := by
  rw [space, space, hpolicy]
  cases scenario.hasParent <;> rfl

/-- The namespace of a scenario on another way to the same units, if it comes to one. -/
theorem build_withLoader {loader : LoaderKind} {cache' : Cache}
    (hpolicy : loader.policy = scenario.loader.policy)
    (hunits : (harness.payloadUnits loader cache').1 =
      (harness.payloadUnits scenario.loader cache).1) :
    harness.build { scenario with loader := loader } cache' =
      ((harness.build scenario cache).1.map (Namespace.withLabel loader.word),
        (harness.payloadUnits loader cache').2) := by
  refine Prod.ext ?_ rfl
  rw [fst_build, fst_build]
  dsimp only
  rw [hunits]
  cases (harness.payloadUnits scenario.loader cache).1 with
  | error error => rfl
  | ok units => exact congrArg Except.ok (space_withLoader hpolicy units)

/-- The label of a scenario's namespace is the word for the loader. -/
theorem label_of_build {space : Namespace} (h : (harness.build scenario cache).1 = .ok space) :
    space.label = scenario.loader.word := by
  rw [fst_build] at h
  obtain ⟨units, -, rfl⟩ := Except.map_eq_ok_iff.1 h
  rw [Namespace.label, layer_space]

theorem resolve_withLabel (space : Namespace) (label : String) (request : Request) :
    BindsAlike space label (Symbol.Counterpart space label)
      ((harness.resolver space).resolve request)
      ((harness.resolver (space.withLabel label)).resolve request) :=
  (harness.resolver space).resolve_withLabel label request

/-- A member that is bound under one label is bound under the other, and calling it comes to the
same apart from the label. -/
theorem exists_invoke_withLabel {space : Namespace} {request : Request} {symbol : Symbol}
    (hresolve : (harness.resolver space).resolve request = .ok symbol) (label : String)
    (state : σ) :
    ∃ symbol' result,
      (harness.resolver (space.withLabel label)).resolve request = .ok symbol' ∧
      symbol'.member = symbol.member ∧
      harness.caller.invoke symbol' canonicalArguments state =
        (result, (harness.caller.invoke symbol canonicalArguments state).2) ∧
      CallsAlike space label Eq (harness.caller.invoke symbol canonicalArguments state).1
        result := by
  have hrel := harness.resolve_withLabel space label request
  rw [hresolve] at hrel
  obtain ⟨symbol', hresolve', hsymbol⟩ := hrel.exists_ok
  obtain ⟨result, hinvoke, hresult⟩ :=
    harness.caller.invoke_counterpart hsymbol canonicalArguments state
  exact ⟨symbol', result, hresolve', hsymbol.member, hinvoke, hresult⟩

/-- The expected owner depends on the way to the payload by its policy alone. -/
theorem expectedOwner_withLoader (harness : Harness σ) {loader : LoaderKind}
    (hpolicy : loader.policy = scenario.loader.policy) :
    harness.expectedOwner { scenario with loader := loader } = harness.expectedOwner scenario := by
  simp only [Harness.expectedOwner, Linkage.expectedOwner, hostAnswers, hpolicy]
  rfl

/-- Two ways to the payload that put the same policy in force lead to the same course, apart from
the label, and leave the same behind, if the units they come to are the same. -/
theorem course_withLoader (scenario : Scenario) {loader : LoaderKind}
    (hpolicy : loader.policy = scenario.loader.policy) {session session' : Session σ}
    (hunits : (harness.payloadUnits loader session'.cache).1 =
      (harness.payloadUnits scenario.loader session.cache).1)
    (hexchange : session'.exchange = session.exchange) :
    (harness.course scenario session).1.Relabeled scenario.loader.word loader.word
        (harness.course { scenario with loader := loader } session').1 ∧
      (harness.course { scenario with loader := loader } session').2.exchange =
        (harness.course scenario session).2.exchange := by
  have hbuild := build_withLoader hpolicy hunits
  have hexpected := harness.expectedOwner_withLoader hpolicy
  rcases hcourse : harness.course scenario session with ⟨taken, after⟩
  cases course_eq_iff.1 hcourse with
  | unbuilt builds =>
    rw [builds] at hbuild
    rw [course_eq_iff.2 (.unbuilt hbuild)]
    exact ⟨.unbuilt _, hexchange⟩
  | @unresolved space _ _ builds resolves =>
    have hspace : (harness.build scenario session.cache).1 = .ok space := congrArg Prod.fst builds
    have hresolve := harness.resolve_withLabel space loader.word (Plan.ofScenario scenario).request
    rw [resolves] at hresolve
    obtain ⟨error', hresolve, herror⟩ := hresolve.exists_error
    rw [builds] at hbuild
    rw [course_eq_iff.2 (.unresolved hbuild hresolve), ← label_of_build hspace]
    exact ⟨.unresolved herror, hexchange⟩
  | @uninvoked space _ _ _ _ builds resolves invokes =>
    have hspace : (harness.build scenario session.cache).1 = .ok space := congrArg Prod.fst builds
    obtain ⟨symbol', result, hresolve, -, hinvoke, hresult⟩ :=
      exists_invoke_withLabel resolves loader.word session.exchange
    rw [invokes] at hinvoke hresult
    obtain ⟨error', rfl, herror⟩ := hresult.exists_error
    rw [← hexchange] at hinvoke
    rw [builds] at hbuild
    rw [course_eq_iff.2 (.uninvoked hbuild hresolve hinvoke), ← label_of_build hspace]
    exact ⟨.uninvoked herror, rfl⟩
  | @answered space _ _ _ _ builds resolves invokes =>
    have hspace : (harness.build scenario session.cache).1 = .ok space := congrArg Prod.fst builds
    obtain ⟨symbol', result, hresolve, hmember, hinvoke, hresult⟩ :=
      exists_invoke_withLabel resolves loader.word session.exchange
    rw [invokes] at hinvoke hresult
    obtain ⟨invocation, rfl, rfl⟩ := hresult.exists_ok
    rw [← hexchange] at hinvoke
    rw [builds] at hbuild
    rw [course_eq_iff.2 (.answered hbuild hresolve hinvoke), hexpected, hmember]
    exact ⟨.answered _ _, rfl⟩

/-- Read as outcomes, the two courses agree in everything but the label in the message. -/
theorem run_withLoader (scenario : Scenario) {loader : LoaderKind}
    (hpolicy : loader.policy = scenario.loader.policy) {session session' : Session σ}
    (hunits : (harness.payloadUnits loader session'.cache).1 =
      (harness.payloadUnits scenario.loader session.cache).1)
    (hexchange : session'.exchange = session.exchange) :
    (harness.run scenario session).1.SameButLabel scenario.loader.word loader.word
        (harness.run { scenario with loader := loader } session').1 ∧
      (harness.run { scenario with loader := loader } session').2.exchange =
        (harness.run scenario session).2.exchange := by
  obtain ⟨hcourse, hleft⟩ := course_withLoader scenario hpolicy hunits hexchange
  refine ⟨?_, hleft⟩
  show ((harness.course scenario session).1.outcome scenario
      (harness.expectedOwner scenario)).SameButLabel scenario.loader.word loader.word
    ((harness.course { scenario with loader := loader } session').1.outcome
      { scenario with loader := loader } (harness.expectedOwner { scenario with loader := loader }))
  rw [harness.expectedOwner_withLoader hpolicy]
  exact hcourse.outcome scenario { scenario with loader := loader } (harness.expectedOwner scenario)

/-- The way in which a payload is taken from a directory makes no difference, whatever file system
the directory is in. Whether as bytes, as a
file that is parsed once, from a cache that earlier runs filled or did not, or as a file that is
parsed every time: a scenario comes to the same outcome, apart from the label in its message, and
leaves the same behind. -/
theorem run_of_directory {φ : Type} {d : Directory φ} {files : φ} (takes : harness.TakesFrom d files)
    {loader loader' : LoaderKind} (hloader : loader ≠ .delegateLast)
    (hloader' : loader' ≠ .delegateLast) (collision hasParent : Bool) (dispatch : CallForm)
    (session session' : Session σ) (filled : harness.Filled session.cache)
    (filled' : harness.Filled session'.cache) (hexchange : session'.exchange = session.exchange) :
    (harness.run ⟨loader, collision, hasParent, dispatch⟩ session).1.SameButLabel loader.word
        loader'.word (harness.run ⟨loader', collision, hasParent, dispatch⟩ session').1 ∧
      (harness.run ⟨loader', collision, hasParent, dispatch⟩ session').2.exchange =
        (harness.run ⟨loader, collision, hasParent, dispatch⟩ session).2.exchange := by
  have hparentFirst : ∀ kind : LoaderKind, kind ≠ .delegateLast → kind.policy = .parentFirst := by
    intro kind hkind
    cases kind with
    | delegateLast => exact absurd rfl hkind
    | _ => rfl
  have hpolicy : loader'.policy = loader.policy :=
    (hparentFirst loader' hloader').trans (hparentFirst loader hloader).symm
  have hunits : (harness.payloadUnits loader' session'.cache).1 =
      (harness.payloadUnits loader session.cache).1 := by
    rw [filled.consistent.payloadUnits_directory takes,
      filled'.consistent.payloadUnits_directory takes]
  exact run_withLoader ⟨loader, collision, hasParent, dispatch⟩ hpolicy hunits hexchange

end Harness

namespace Depot

/-- A directory of a disk. -/
def directory : Directory Disk := ⟨Disk.system, "payloads"⟩

/-- A disk with the bundled scripts in that directory, and nothing else. -/
def disk : Disk := (directory.installBundled ⟨[], [], .empty⟩).2

/-- A harness over the directory, with a host that declares nothing but a capability that the
payload declares as well. -/
def harness : Harness (List String) :=
  (Harness.ofHost .empty Harness.apart_empty (directory.store disk) (Disk.system.read disk) {}
    (.constant "secret") .recording).withHost Bystander.host Bystander.apart Bystander.unitsApart

theorem takes : harness.TakesFrom directory disk := ⟨rfl, rfl⟩

/-- What a harness starts with. -/
def cold : Session (List String) := ⟨.empty, []⟩

end Depot

/-- A payload that is taken as bytes and one that a run has left in the cache come to the same. The
instance is to be held by a host that is not above the payload, so both runs fail, and so did the
first one. -/
theorem Harness.run_depot :
    (Depot.harness.run ⟨.byteBuffer, true, false, .factoryInterface⟩ Depot.cold).1.SameButLabel
        "byte-buffer-based" "path-based-cached"
        (Depot.harness.run ⟨.cachedPath, true, false, .factoryInterface⟩
          (Depot.harness.run ⟨.cachedPath, true, false, .factoryInterface⟩ Depot.cold).2).1 ∧
      (Depot.harness.run ⟨.cachedPath, true, false, .factoryInterface⟩
          (Depot.harness.run ⟨.cachedPath, true, false, .factoryInterface⟩
            Depot.cold).2).2.exchange =
        (Depot.harness.run ⟨.byteBuffer, true, false, .factoryInterface⟩
          Depot.cold).2.exchange :=
  have hbytes : LoaderKind.byteBuffer ≠ .delegateLast := by decide
  have hcached : LoaderKind.cachedPath ≠ .delegateLast := by decide
  run_of_directory Depot.takes hbytes hcached true false .factoryInterface Depot.cold _ .empty
    (.run .empty _) (run_of_parentless_factory rfl rfl).2

end Linkage
