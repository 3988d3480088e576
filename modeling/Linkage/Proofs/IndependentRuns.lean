import Linkage.Conformance.Report
import Linkage.Proofs.Passing

/-!
# Independent runs

The runs of a harness share the parse cache and the state that the source and the sink keep. Neither
lets one scenario bear on another, as long as the store stays as it is and the source always draws
the same value. The cache keeps nothing but what parsing would say again
(`Harness.Consistent.payloadUnits`), every run keeps it so (`Harness.Filled.consistent`), and the
state is handed on without being looked at (`Harness.run_eq_of_alike`). A sink that keeps every answer
grows by the answer of the scenario, if its call is answered (`Harness.Records.run`).

`Harness.runAll_eq_map` carries this through runs of any length: each scenario comes to what it
comes to in a fresh harness.
-/

namespace Linkage

/-! ## Caches that agree with the store -/

namespace Cache

/-- Whether a cache keeps for a path, if anything, what parsing given contents comes to. -/
def Agrees (cache : Cache) (path : String) (contents : Except PayloadError ByteArray) : Prop :=
  ∀ declarations, cache.find? path = some declarations →
    contents >>= Payload.declarations = .ok declarations

variable {cache : Cache} {path : String} {contents : Except PayloadError ByteArray}

theorem agrees_empty (path : String) (contents : Except PayloadError ByteArray) :
    Cache.empty.Agrees path contents := by
  intro declarations hfound
  cases hfound

/-- A lookup in a cache that agrees comes to the same as parsing, and the cache goes on to agree. -/
theorem Agrees.getOrParse (h : cache.Agrees path contents) :
    (cache.getOrParse path contents).1 = contents >>= Payload.declarations ∧
      (cache.getOrParse path contents).2.Agrees path contents := by
  rcases getOrParse_cases cache path contents with
    ⟨kept, hfound, heq⟩ | ⟨error, -, herror, heq⟩ | ⟨parsed, new, hparsed, heq⟩
  · rw [heq]
    exact ⟨(h kept hfound).symm, h⟩
  · rw [heq]
    exact ⟨herror.symm, h⟩
  · rw [heq]
    refine ⟨hparsed.symm, fun kept hkept => ?_⟩
    rw [find?_keep, if_pos rfl] at hkept
    rw [← Option.some.inj hkept]
    exact hparsed

end Cache

namespace Harness

variable {σ τ ρ : Type} {harness : Harness σ} {other : Harness τ} {scenario : Scenario}
  {session : Session σ} {cache : Cache} {value : String}

/-- Whether a cache agrees with the store about the payload. -/
def Consistent (harness : Harness σ) (cache : Cache) : Prop :=
  ∀ path, harness.store.path harness.settings.payloadName = .ok path →
    cache.Agrees path (harness.reading.contents path)

theorem consistent_empty (harness : Harness σ) : harness.Consistent .empty :=
  fun path _ => Cache.agrees_empty path (harness.reading.contents path)

/-- A cache that agrees with the store makes no difference to the units of a scenario, and fetching
them leaves such a cache behind. -/
theorem Consistent.payloadUnits (h : harness.Consistent cache) (loader : LoaderKind) :
    (harness.payloadUnits loader cache).1 = (harness.payloadUnits loader .empty).1 ∧
      harness.Consistent (harness.payloadUnits loader cache).2 := by
  cases loader with
  | cachedPath =>
    cases hpath : harness.store.path harness.settings.payloadName with
    | error error =>
      simp only [Harness.payloadUnits, hpath, true_and]
      exact h
    | ok path =>
      simp only [Harness.payloadUnits, hpath]
      obtain ⟨hfound, hkept⟩ := (h path hpath).getOrParse
      obtain ⟨hparsed, -⟩ := (harness.consistent_empty path hpath).getOrParse
      refine ⟨by rw [hfound, hparsed], fun same hsame => ?_⟩
      obtain rfl : path = same := Except.ok.inj (hpath.symm.trans hsame)
      exact hkept
  | _ => exact ⟨rfl, h⟩

theorem Consistent.build (h : harness.Consistent cache) (scenario : Scenario) :
    (harness.build scenario cache).1 = (harness.build scenario .empty).1 ∧
      harness.Consistent (harness.build scenario cache).2 := by
  obtain ⟨hunits, hkept⟩ := h.payloadUnits scenario.loader
  rw [fst_build, fst_build, hunits]
  exact ⟨rfl, hkept⟩

/-- The caches that the runs of a harness lead to, from the one that has seen nothing. The state of
the source and the sink may be any other one before each run. -/
inductive Filled (harness : Harness σ) : Cache → Prop where
  | empty : Filled harness .empty
  | run {session : Session σ} (earlier : Filled harness session.cache) (scenario : Scenario) :
      Filled harness (harness.run scenario session).2.cache

/-- Runs keep the cache in agreement with the store. -/
theorem Filled.consistent (h : harness.Filled cache) : harness.Consistent cache := by
  induction h with
  | empty => exact harness.consistent_empty
  | run earlier scenario ih =>
    rw [cache_run]
    exact (ih.build scenario).2

/-! ## Outcomes -/

/-- Two harnesses that may differ in the sink and in the state that is kept, but in nothing that an
outcome depends on: both sources always draw the same value. -/
structure Alike (harness : Harness σ) (other : Harness τ) (value : String) : Prop where
  settings : other.settings = harness.settings
  host : other.host = harness.host
  store : other.store = harness.store
  reading : other.reading = harness.reading
  draws : ∀ state, (harness.source.draw state).1 = value
  other_draws : ∀ state, (other.source.draw state).1 = value

/-- The answer to the call that a scenario comes to, if it comes to one that is answered. -/
def answer? (harness : Harness σ) (scenario : Scenario) (session : Session σ) : Option String := do
  let space ← (harness.build scenario session.cache).1.toOption
  let symbol ← ((harness.resolver space).resolve (Plan.ofScenario scenario).request).toOption
  let invocation ← (harness.caller.invoke symbol canonicalArguments session.exchange).1.toOption
  some invocation.result

/-- What a call comes to depends on the value drawn and not on the state it is drawn from. -/
theorem fst_invoke {caller : Caller σ} (symbol : Symbol) (values : List Value) (state : σ) :
    (caller.invoke symbol values state).1 =
      symbol.prepare caller.maxHops >>= fun _ =>
        symbol.call (withSensitive values (caller.source.draw state).1)
          (caller.source.draw state).1 := by
  rcases caller.invoke_cases symbol values state with ⟨error, hprepare, hinvoke⟩ |
    ⟨error, hprepare, hcall, hinvoke⟩ | ⟨invocation, hprepare, hcall, hinvoke⟩
  · rw [hinvoke, hprepare, Except.error_bind]
  · rw [hinvoke, hprepare, Except.ok_bind, hcall]
  · rw [hinvoke, hprepare, Except.ok_bind, hcall]

theorem Alike.resolver_eq (alike : harness.Alike other value) (space : Namespace) :
    other.resolver space = harness.resolver space := by
  rw [resolver, resolver, alike.host, alike.settings]

theorem Alike.build_eq (alike : harness.Alike other value) (scenario : Scenario) (cache : Cache) :
    (other.build scenario cache).1 = (harness.build scenario cache).1 := by
  have hspace : other.space scenario = harness.space scenario := by
    funext units
    rw [space, space, alike.host, alike.settings]
  have hunits : other.payloadUnits scenario.loader cache =
      harness.payloadUnits scenario.loader cache := by
    simp only [payloadUnits, alike.store, alike.reading, alike.settings]
  rw [fst_build, fst_build, hspace, hunits]

theorem Alike.invoke_eq (alike : harness.Alike other value) (symbol : Symbol) (state : σ)
    (state' : τ) :
    (other.caller.invoke symbol canonicalArguments state').1 =
      (harness.caller.invoke symbol canonicalArguments state).1 := by
  rw [fst_invoke, fst_invoke, caller, caller, alike.draws, alike.other_draws, alike.settings]

/-- With a cache that agrees with the store, a scenario comes to what it comes to in a harness that
is alike and has seen nothing. -/
theorem run_eq_of_alike (alike : harness.Alike other value)
    (consistent : harness.Consistent session.cache) (scenario : Scenario) (state : τ) :
    (harness.run scenario session).1 = (other.run scenario ⟨.empty, state⟩).1 ∧
      harness.answer? scenario session = other.answer? scenario ⟨.empty, state⟩ := by
  have hbuild : (other.build scenario .empty).1 = (harness.build scenario session.cache).1 := by
    rw [alike.build_eq, (consistent.build scenario).1]
  have hinvoke := fun symbol => alike.invoke_eq symbol session.exchange state
  have hexpected : other.expectedOwner scenario = harness.expectedOwner scenario := by
    rw [Harness.expectedOwner, Harness.expectedOwner, alike.host, alike.settings]
  have hcourse : (harness.course scenario session).1 =
      (other.course scenario ⟨.empty, state⟩).1 := by
    simp only [fst_course, hbuild, alike.resolver_eq, hinvoke, hexpected]
  constructor
  · show (harness.course scenario session).1.outcome scenario (harness.expectedOwner scenario) =
      (other.course scenario ⟨.empty, state⟩).1.outcome scenario (other.expectedOwner scenario)
    rw [hcourse, hexpected]
  · simp only [answer?, hbuild, alike.resolver_eq, hinvoke]

/-- A call is answered in the scenarios that go through the stage of being invoked. -/
theorem isSome_answer?_iff (scenario : Scenario) (session : Session σ) :
    (harness.answer? scenario session).isSome = true ↔
      Stage.invoked ∈ (harness.run scenario session).1.trace := by
  obtain ⟨taken, after, takes, hrun⟩ := harness.exists_takes scenario session
  rw [hrun, Course.outcome, answer?]
  -- the course names the stages up to where it stops, and the answer is there from the call on
  cases takes with
  | unbuilt builds => simp [builds, Except.toOption, Course.stages, Course.lastStage, Course.failure?]
  | unresolved builds resolves =>
    simp [builds, resolves, Except.toOption, Course.stages, Course.lastStage, Course.failure?]
  | uninvoked builds resolves invokes =>
    simp [builds, resolves, invokes, Except.toOption, Course.stages, Course.lastStage,
      Course.failure?]
  | answered builds resolves invokes =>
    have hinvoked : ∀ verdict check, Stage.invoked ∈ (Course.answered verdict check).stages := by
      intro verdict check
      cases check <;> simp [Course.stages]
    simp [builds, resolves, invokes, Except.toOption, hinvoked]

/-! ## Answers that are kept -/

/-- Whether the sink keeps every answer, in order, in a part of the state that the source leaves
alone. -/
structure Records (harness : Harness σ) (received : σ → List String) : Prop where
  accepts : ∀ state answer,
    received (harness.sink.accept state answer) = received state ++ [answer]
  draws : ∀ state, received (harness.source.draw state).2 = received state

/-- A call delivers its answer, if it is answered, and nothing otherwise. -/
theorem Records.invoke {received : σ → List String} (records : harness.Records received)
    (symbol : Symbol) (values : List Value) (state : σ) :
    received (harness.caller.invoke symbol values state).2 =
      received state ++
        ((harness.caller.invoke symbol values state).1.toOption.map Invocation.result).toList := by
  have hdraws : received (harness.caller.source.draw state).2 = received state :=
    records.draws state
  rcases harness.caller.invoke_cases symbol values state with ⟨error, -, hinvoke⟩ |
    ⟨error, -, -, hinvoke⟩ | ⟨invocation, -, -, hinvoke⟩
  · simp [hinvoke, Except.toOption]
  · simp [hinvoke, hdraws, Except.toOption]
  · have haccepts : received (harness.caller.sink.accept (harness.caller.source.draw state).2
        invocation.result) = received state ++ [invocation.result] := by
      rw [← hdraws]
      exact records.accepts _ _
    simp [hinvoke, haccepts, Except.toOption]

/-- A run delivers the answer of its scenario, if there is one. -/
theorem Records.run {received : σ → List String} (records : harness.Records received)
    (scenario : Scenario) (session : Session σ) :
    received (harness.run scenario session).2.exchange =
      received session.exchange ++ (harness.answer? scenario session).toList := by
  obtain ⟨taken, after, takes, hrun⟩ := harness.exists_takes scenario session
  rw [hrun, answer?]
  cases takes with
  | unbuilt builds => simp [builds, Except.toOption]
  | unresolved builds resolves => simp [builds, resolves, Except.toOption]
  | @uninvoked _ _ symbol _ _ builds resolves invokes =>
    have hdelivers := records.invoke symbol canonicalArguments session.exchange
    rw [invokes] at hdelivers
    simpa [builds, resolves, invokes, Except.toOption] using hdelivers
  | @answered _ _ symbol _ _ builds resolves invokes =>
    have hdelivers := records.invoke symbol canonicalArguments session.exchange
    rw [invokes] at hdelivers
    simpa [builds, resolves, invokes, Except.toOption] using hdelivers

/-! ## Runs of several scenarios -/

variable {report : ρ → Outcome → ρ} {scenarios : List Scenario} {log : ρ}

theorem runAll_cons (scenario : Scenario) (scenarios : List Scenario) (log : ρ)
    (session : Session σ) :
    harness.runAll report (scenario :: scenarios) log session =
      let first := harness.run scenario session
      let more := harness.runAll report scenarios (report log first.1) first.2
      (first.1 :: more.1, more.2.1, more.2.2) := rfl

/-- The outcomes are reported in the order in which they come. -/
theorem log_runAll (scenarios : List Scenario) (log : ρ) (session : Session σ) :
    (harness.runAll report scenarios log session).2.1 =
      (harness.runAll report scenarios log session).1.foldl report log := by
  induction scenarios generalizing log session with
  | nil => rfl
  | cons scenario scenarios ih =>
    rw [runAll_cons]
    dsimp only
    rw [List.foldl_cons, ih]

/-- Scenarios that are run one after another come to what each of them comes to by itself. -/
theorem outcomes_runAll (alike : harness.Alike other value) (filled : harness.Filled session.cache)
    (scenarios : List Scenario) (log : ρ) (state : τ) :
    (harness.runAll report scenarios log session).1 =
      scenarios.map fun scenario => (other.run scenario ⟨.empty, state⟩).1 := by
  induction scenarios generalizing log session with
  | nil => rfl
  | cons scenario scenarios ih =>
    rw [runAll_cons, List.map_cons, ← (run_eq_of_alike alike filled.consistent scenario state).1]
    dsimp only
    rw [ih (filled.run scenario)]

/-- A sink that keeps every answer receives those of the scenarios, in order. -/
theorem Records.runAll {received : σ → List String} (records : harness.Records received)
    (alike : harness.Alike other value) (filled : harness.Filled session.cache)
    (scenarios : List Scenario) (log : ρ) (state : τ) :
    received (harness.runAll report scenarios log session).2.2.exchange =
      received session.exchange ++
        scenarios.filterMap fun scenario => other.answer? scenario ⟨.empty, state⟩ := by
  induction scenarios generalizing log session with
  | nil => simp [Harness.runAll]
  | cons scenario scenarios ih =>
    rw [runAll_cons]
    dsimp only
    rw [ih (filled.run scenario), records.run,
      (run_eq_of_alike alike filled.consistent scenario state).2, List.filterMap_cons]
    cases other.answer? scenario ⟨.empty, state⟩ <;> simp

/-- Running scenarios one after another is running each of them by itself, whatever was run before:
in the order given, and one for each, the outcomes are those of a harness that is alike and has
seen nothing. They are reported as they come. A sink that keeps every answer grows by the answers
of the scenarios whose calls are answered, which are the ones that go through the stage of being
invoked. -/
theorem runAll_eq_map (alike : harness.Alike other value) (filled : harness.Filled session.cache)
    (report : ρ → Outcome → ρ) (scenarios : List Scenario) (log : ρ) (state : τ) :
    let ran := harness.runAll report scenarios log session
    ran.1 = scenarios.map (fun scenario => (other.run scenario ⟨.empty, state⟩).1) ∧
      ran.2.1 = ran.1.foldl report log ∧
      (∀ received, harness.Records received →
        received ran.2.2.exchange = received session.exchange ++
          scenarios.filterMap fun scenario => other.answer? scenario ⟨.empty, state⟩) ∧
      ∀ scenario, (other.answer? scenario ⟨.empty, state⟩).isSome = true ↔
        Stage.invoked ∈ (other.run scenario ⟨.empty, state⟩).1.trace := by
  refine ⟨outcomes_runAll alike filled scenarios log state, log_runAll scenarios log session, ?_, ?_⟩
  · intro received records
    exact records.runAll alike filled scenarios log state
  · intro scenario
    exact isSome_answer?_iff scenario _

end Harness

/-! ## A harness that was used before -/

namespace Solo

/-- A scenario whose payload would have to come from a file, which the store does not have. -/
def astray : Scenario := ⟨.cachedPath, false, false, .static⟩

/-- What the harness leaves behind when the scenario was run before. -/
def used : Session (List String) := (harness.run astray ⟨.empty, ["earlier"]⟩).2

theorem filled : harness.Filled used.cache := .run .empty astray

theorem alike : harness.Alike harness "secret" := ⟨rfl, rfl, rfl, rfl, fun _ => rfl, fun _ => rfl⟩

/-- What the sink was given, which is all that the state holds. -/
def received (state : List String) : List String := state

theorem records : harness.Records received := ⟨fun _ _ => rfl, fun _ => rfl⟩

/-- The answer of the one unit of the payload. -/
def answer : String := (Echo.ofValues "A" (canonicalCall "secret")).render

/-- The answer to a scenario in a fresh harness. -/
def reply (scenario : Scenario) : Option String := harness.answer? scenario ⟨.empty, []⟩

theorem reply_scenario : reply scenario = some answer := by
  have hinvoke : (harness.caller.invoke symbol canonicalArguments []).1 =
    .ok (echoedCall "secret" "A" (canonicalCall "secret")) := rfl
  rw [reply, Harness.answer?, honest.builds]
  simp only [Except.toOption, Option.bind_eq_bind, Option.bind_some, honest.resolves, hinvoke]
  rfl

theorem reply_astray : reply astray = none := rfl

/-- The scenario that fails leaves no answer between those of the others. -/
theorem replies : [scenario, astray, scenario].filterMap reply = [answer, answer] := by
  rw [List.filterMap_cons_some reply_scenario, List.filterMap_cons_none reply_astray,
    List.filterMap_cons_some reply_scenario, List.filterMap_nil]

end Solo

/-- A harness in which a scenario has failed before delivers what a fresh one would. -/
theorem Harness.runAll_solo :
    Solo.received (Solo.harness.runAll Report.add [Solo.scenario, Solo.astray, Solo.scenario] .empty
      Solo.used).2.2.exchange = Solo.received Solo.used.exchange ++ [Solo.answer, Solo.answer] := by
  rw [← Solo.replies]
  exact (runAll_eq_map Solo.alike Solo.filled Report.add
    [Solo.scenario, Solo.astray, Solo.scenario] .empty []).2.2.1 Solo.received Solo.records

end Linkage
