import Linkage.Conformance.Harness

/-!
# Courses of scenarios

`Harness.Takes` lists the courses of a scenario, one rule for each place where it can stop, together
with what it leaves behind there. The rules are exact (`Harness.course_eq_iff`), so whatever is said
of a run is proved by cases on them.
-/

namespace Linkage

namespace Harness

variable {σ : Type} {harness : Harness σ} {scenario : Scenario} {session after : Session σ}
  {taken : Course}

/-- The course that a scenario takes, and what it leaves behind. The cache is that of the build, and
only a call draws or delivers anything. -/
inductive Takes (harness : Harness σ) (scenario : Scenario) (session : Session σ) :
    Course → Session σ → Prop where
  | unbuilt {error : PayloadError} {cache : Cache}
      (builds : harness.build scenario session.cache = (.error error, cache)) :
      Takes harness scenario session (.unbuilt error) ⟨cache, session.exchange⟩
  | unresolved {space : Namespace} {cache : Cache} {error : BindingError}
      (builds : harness.build scenario session.cache = (.ok space, cache))
      (resolves :
        (harness.resolver space).resolve (Plan.ofScenario scenario).request = .error error) :
      Takes harness scenario session (.unresolved error) ⟨cache, session.exchange⟩
  | uninvoked {space : Namespace} {cache : Cache} {symbol : Symbol} {error : CallError}
      {exchange : σ} (builds : harness.build scenario session.cache = (.ok space, cache))
      (resolves : (harness.resolver space).resolve (Plan.ofScenario scenario).request = .ok symbol)
      (invokes : harness.caller.invoke symbol canonicalArguments session.exchange =
        (.error error, exchange)) :
      Takes harness scenario session (.uninvoked error) ⟨cache, exchange⟩
  | answered {space : Namespace} {cache : Cache} {symbol : Symbol} {invocation : Invocation}
      {exchange : σ} (builds : harness.build scenario session.cache = (.ok space, cache))
      (resolves : (harness.resolver space).resolve (Plan.ofScenario scenario).request = .ok symbol)
      (invokes : harness.caller.invoke symbol canonicalArguments session.exchange =
        (.ok invocation, exchange)) :
      Takes harness scenario session
        (.answered (Verdict.ofInvocation invocation symbol.member.key.signature)
          ((Verdict.ofInvocation invocation symbol.member.key.signature).check
            (harness.expectedOwner scenario)))
        ⟨cache, exchange⟩

/-- The rules tell what course a scenario takes. -/
theorem course_eq_iff :
    harness.course scenario session = (taken, after) ↔
      harness.Takes scenario session taken after := by
  constructor
  · intro h
    -- the stages are taken one after another, and the first one that fails decides the rule
    rw [course] at h
    rcases hbuild : harness.build scenario session.cache with ⟨error | space, cache⟩
    · rw [hbuild] at h
      cases h
      exact .unbuilt hbuild
    · rw [hbuild] at h
      dsimp only at h
      cases hresolve : (harness.resolver space).resolve (Plan.ofScenario scenario).request with
      | error error =>
        rw [hresolve] at h
        cases h
        exact .unresolved hbuild hresolve
      | ok symbol =>
        rw [hresolve] at h
        dsimp only at h
        rcases hinvoke : harness.caller.invoke symbol canonicalArguments session.exchange with
          ⟨error | invocation, exchange⟩
        · rw [hinvoke] at h
          cases h
          exact .uninvoked hbuild hresolve hinvoke
        · rw [hinvoke] at h
          cases h
          exact .answered hbuild hresolve hinvoke
  · intro takes
    cases takes with
    | unbuilt builds => rw [course, builds]
    | unresolved builds resolves => simp only [course, builds, resolves]
    | uninvoked builds resolves invokes => simp only [course, builds, resolves, invokes]
    | answered builds resolves invokes => simp only [course, builds, resolves, invokes]

/-- A run is a course that is taken, read as an outcome. -/
theorem exists_takes (harness : Harness σ) (scenario : Scenario) (session : Session σ) :
    ∃ taken after, harness.Takes scenario session taken after ∧
      harness.run scenario session =
        (taken.outcome scenario (harness.expectedOwner scenario), after) :=
  ⟨_, _, course_eq_iff.1 rfl, rfl⟩

/-- The cache that a run leaves behind is that of its build. -/
theorem cache_run (scenario : Scenario) (session : Session σ) :
    (harness.run scenario session).2.cache = (harness.build scenario session.cache).2 := by
  obtain ⟨taken, after, takes, hrun⟩ := harness.exists_takes scenario session
  rw [hrun]
  cases takes with
  | unbuilt builds => rw [builds]
  | unresolved builds => rw [builds]
  | uninvoked builds => rw [builds]
  | answered builds => rw [builds]

/-- What course a scenario takes does not depend on what it leaves behind at its stages. -/
theorem fst_course (scenario : Scenario) (session : Session σ) :
    (harness.course scenario session).1 =
      match (harness.build scenario session.cache).1 with
      | .error error => .unbuilt error
      | .ok space =>
        match (harness.resolver space).resolve (Plan.ofScenario scenario).request with
        | .error error => .unresolved error
        | .ok symbol =>
          match (harness.caller.invoke symbol canonicalArguments session.exchange).1 with
          | .error error => .uninvoked error
          | .ok invocation =>
            .answered (Verdict.ofInvocation invocation symbol.member.key.signature)
              ((Verdict.ofInvocation invocation symbol.member.key.signature).check
                (harness.expectedOwner scenario)) := by
  rcases hcourse : harness.course scenario session with ⟨taken, after⟩
  cases course_eq_iff.1 hcourse with
  | unbuilt builds => simp only [builds]
  | unresolved builds resolves => simp only [builds, resolves]
  | uninvoked builds resolves invokes => simp only [builds, resolves, invokes]
  | answered builds resolves invokes => simp only [builds, resolves, invokes]

theorem run_eq_of_takes (takes : harness.Takes scenario session taken after) :
    harness.run scenario session =
      (taken.outcome scenario (harness.expectedOwner scenario), after) := by
  rw [run, course_eq_iff.2 takes]

end Harness

end Linkage
