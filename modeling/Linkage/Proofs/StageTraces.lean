import Linkage.Proofs.Passing

/-!
# Traces of scenarios

An outcome tells the same story several times: as a status, as a failure with a code, as the owner
and the arguments that came back, and as the trace of the stages gone through.
`Outcome.Coherent` says how these have to agree, and `Harness.coherent_run` that they always do.

The trace is read off a course, so each part is a fact about courses. Only the failure of a check
has to be looked up: a check fails with a mismatch and with nothing else
(`Verdict.status_of_check`).
-/

namespace Linkage

/-- The stages between the first and the final one, in order. -/
def Stage.inner : List Stage := [.loaderBuilt, .resolved, .invoked, .verified]

/-- The codes of failures to get at a payload or to define its units. -/
def payloadCodes : List String := ["DR0001", "DR0002", "DR0003", "DR0050"]

/-- What the parts of an outcome have to do with each other. -/
structure Outcome.Coherent (outcome : Outcome) : Prop where
  /-- A trace starts out configured, goes through the inner stages as far as it comes, and ends in
  its one final stage. -/
  trace_shape : ∃ taken last, taken <+: Stage.inner ∧ last.isFinal = true ∧
    outcome.trace = .configured :: taken ++ [last]
  passed_iff_unfailed : outcome.status = .passed ↔ outcome.failure = none
  unfailed_iff_verified : outcome.failure = none ↔ .verified ∈ outcome.trace
  verified_iff_last : .verified ∈ outcome.trace ↔ outcome.trace.getLast? = some .passed
  last_of_failure : ∀ failure ∈ outcome.failure,
    outcome.trace.getLast? = some (.failed outcome.status failure.code)
  resolutionFailure_iff : outcome.status = .resolutionFailure ↔ .resolved ∉ outcome.trace
  payloadCode_iff : (∃ code ∈ outcome.code?, code ∈ payloadCodes) ↔ .loaderBuilt ∉ outcome.trace
  invocationFailure_iff : outcome.status = .invocationFailure ↔
    .resolved ∈ outcome.trace ∧ .invoked ∉ outcome.trace
  mismatch_iff : outcome.status = .mismatch ↔
    .invoked ∈ outcome.trace ∧ .verified ∉ outcome.trace
  unanswered : .invoked ∉ outcome.trace →
    outcome.actualOwner = none ∧ outcome.argumentsMatched = false
  passed_owner : outcome.status = .passed →
    outcome.actualOwner = some outcome.expectedOwner ∧ outcome.argumentsMatched = true

/-! ## Codes -/

theorem PayloadError.code_mem (error : PayloadError) : error.code ∈ payloadCodes := by
  cases error with
  | definition error => cases error <;> simp [code, DefinitionError.code, payloadCodes]
  | _ => simp [code, payloadCodes]

theorem BindingError.code_notMem (error : BindingError) : error.code ∉ payloadCodes := by
  cases error with
  | load error => cases error <;> simp [code, LoadError.code, payloadCodes]
  | _ => simp [code, payloadCodes]

theorem CallPhase.code_notMem (phase : CallPhase) : phase.code ∉ payloadCodes := by
  cases phase <;> decide

/-- Only failures to get at a payload have one of their codes. -/
theorem Failure.code_mem_iff {failure : Failure} :
    failure.code ∈ payloadCodes ↔ ∃ error, failure = .payload error := by
  cases failure with
  | payload error => exact ⟨fun _ => ⟨error, rfl⟩, fun _ => error.code_mem⟩
  | binding error => exact ⟨fun h => absurd h error.code_notMem, fun ⟨_, h⟩ => by cases h⟩
  | call error => exact ⟨fun h => absurd h error.phase.code_notMem, fun ⟨_, h⟩ => by cases h⟩
  | _ => simp [Failure.code, payloadCodes]

/-- A check can only fail with a mismatch. -/
theorem Verdict.status_of_check {verdict : Verdict} {expected : String} {failure : Failure}
    (h : verdict.check expected = .error failure) : failure.status = .mismatch := by
  rw [check] at h
  split at h
  · cases h
    rfl
  · split at h
    · cases h
      rfl
    · split at h
      · cases h
        rfl
      · cases h

/-! ## Courses -/

namespace Course

variable {course : Course} {expected : String} {stage : Stage}

/-- The courses whose check, if they came to one, expects an owner: a check that fails is a
mismatch, and one that succeeds has seen that owner and all arguments. -/
inductive Checked (expected : String) : Course → Prop where
  | unbuilt (error : PayloadError) : Checked expected (.unbuilt error)
  | unresolved (error : BindingError) : Checked expected (.unresolved error)
  | uninvoked (error : CallError) : Checked expected (.uninvoked error)
  | mismatched {verdict : Verdict} {failure : Failure} (mismatch : failure.status = .mismatch) :
      Checked expected (.answered verdict (.error failure))
  | verified {verdict : Verdict} (owner : verdict.owner = some expected)
      (kept : verdict.argumentsMatched = true) : Checked expected (.answered verdict (.ok ()))

theorem isFinal_lastStage (course : Course) : course.lastStage.isFinal = true := by
  rw [lastStage]
  cases course.failure? <;> rfl

theorem exists_inner_prefix (course : Course) :
    ∃ taken, taken <+: Stage.inner ∧ course.stages = .configured :: taken := by
  have hprefix : ∀ n, Stage.inner.take n <+: Stage.inner := fun n => List.take_prefix n _
  cases course with
  | unbuilt error => exact ⟨_, hprefix 0, rfl⟩
  | unresolved error => exact ⟨_, hprefix 1, rfl⟩
  | uninvoked error => exact ⟨_, hprefix 2, rfl⟩
  | answered verdict check =>
    cases check with
    | error failure => exact ⟨_, hprefix 3, rfl⟩
    | ok _ => exact ⟨_, hprefix 4, rfl⟩

/-- The stages of a trace that are not final are the stages of the course. -/
theorem mem_trace_iff (h : stage.isFinal = false) :
    stage ∈ course.stages ++ [course.lastStage] ↔ stage ∈ course.stages := by
  have hne : stage ≠ course.lastStage := by
    rintro rfl
    rw [course.isFinal_lastStage] at h
    cases h
  simp [hne]

theorem failure?_eq_none_iff : course.failure? = none ↔ .verified ∈ course.stages := by
  cases course with
  | answered verdict check => cases check <;> simp [failure?, stages]
  | _ => simp [failure?, stages]

theorem status_eq_passed_iff_failure? : course.status = .passed ↔ course.failure? = none := by
  rw [status]
  cases course.failure? with
  | none => simp
  | some failure => simp [failure.status_ne_passed]

theorem lastStage_eq_passed_iff : course.lastStage = .passed ↔ course.failure? = none := by
  rw [lastStage]
  cases course.failure? <;> simp

theorem Checked.resolutionFailure_iff (checked : course.Checked expected) :
    course.status = .resolutionFailure ↔ .resolved ∉ course.stages := by
  cases checked with
  | mismatched mismatch => simp [status, failure?, stages, mismatch]
  | _ => simp [status, failure?, stages, Failure.status]

theorem Checked.invocationFailure_iff (checked : course.Checked expected) :
    course.status = .invocationFailure ↔
      .resolved ∈ course.stages ∧ .invoked ∉ course.stages := by
  cases checked with
  | mismatched mismatch => simp [status, failure?, stages, mismatch]
  | _ => simp [status, failure?, stages, Failure.status]

theorem Checked.mismatch_iff (checked : course.Checked expected) :
    course.status = .mismatch ↔ .invoked ∈ course.stages ∧ .verified ∉ course.stages := by
  cases checked with
  | mismatched mismatch => simp [status, failure?, stages, mismatch]
  | _ => simp [status, failure?, stages, Failure.status]

/-- A course fails to get at its payload exactly when no namespace is built. -/
theorem Checked.payload_iff (checked : course.Checked expected) :
    (∃ error, course.failure? = some (.payload error)) ↔ .loaderBuilt ∉ course.stages := by
  cases checked with
  | @mismatched _ failure mismatch =>
    -- a failure to get at the payload is counted under another status
    have hne : ∀ error, failure ≠ .payload error := by
      rintro error rfl
      cases mismatch
    simp [failure?, stages, hne]
  | _ => simp [failure?, stages]

theorem verdict?_of_invoked_notMem (h : .invoked ∉ course.stages) : course.verdict? = none := by
  cases course with
  | answered verdict check => cases check <;> simp [stages] at h
  | _ => rfl

/-- A course that passes has a verdict, with the owner expected and all arguments back. -/
theorem Checked.verdict_of_passed (checked : course.Checked expected)
    (h : course.status = .passed) :
    ∃ verdict, course.verdict? = some verdict ∧ verdict.owner = some expected ∧
      verdict.argumentsMatched = true := by
  cases checked with
  | verified owner kept => exact ⟨_, rfl, owner, kept⟩
  | mismatched mismatch => simp [status, failure?, mismatch] at h
  | _ => simp [status, failure?, Failure.status] at h

/-- The outcome of such a course is coherent. -/
theorem Checked.coherent (checked : course.Checked expected) (scenario : Scenario) :
    (course.outcome scenario expected).Coherent := by
  have hlast : (course.outcome scenario expected).trace.getLast? = some course.lastStage :=
    List.getLast?_concat
  have hmem : ∀ stage : Stage, stage.isFinal = false →
      (stage ∈ (course.outcome scenario expected).trace ↔ stage ∈ course.stages) :=
    fun _ hstage => mem_trace_iff hstage
  constructor
  case trace_shape =>
    obtain ⟨taken, hprefix, hstages⟩ := course.exists_inner_prefix
    refine ⟨taken, course.lastStage, hprefix, course.isFinal_lastStage, ?_⟩
    rw [Course.outcome, hstages]
  case passed_iff_unfailed => exact status_eq_passed_iff_failure?
  case unfailed_iff_verified =>
    rw [hmem .verified rfl]
    exact failure?_eq_none_iff
  case verified_iff_last =>
    rw [hmem .verified rfl, hlast, Option.some_inj, lastStage_eq_passed_iff, failure?_eq_none_iff]
  case last_of_failure =>
    intro failure hfailure
    have hfound : course.failure? = some failure := hfailure
    rw [hlast, lastStage, Course.outcome, status, hfound]
  case resolutionFailure_iff =>
    rw [hmem .resolved rfl]
    exact checked.resolutionFailure_iff
  case payloadCode_iff =>
    rw [hmem .loaderBuilt rfl, ← checked.payload_iff]
    show (∃ code ∈ course.failure?.map Failure.code, code ∈ payloadCodes) ↔ _
    cases course.failure? with
    | none => simp
    | some failure => simp [Failure.code_mem_iff]
  case invocationFailure_iff =>
    rw [hmem .resolved rfl, hmem .invoked rfl]
    exact checked.invocationFailure_iff
  case mismatch_iff =>
    rw [hmem .invoked rfl, hmem .verified rfl]
    exact checked.mismatch_iff
  case unanswered =>
    rw [hmem .invoked rfl]
    intro hinvoked
    rw [Course.outcome, verdict?_of_invoked_notMem hinvoked]
    exact ⟨rfl, rfl⟩
  case passed_owner =>
    intro hpassed
    obtain ⟨verdict, hverdict, howner, hmatched⟩ := checked.verdict_of_passed hpassed
    rw [Course.outcome, hverdict]
    exact ⟨howner, hmatched⟩

end Course

namespace Harness

variable {σ : Type} {harness : Harness σ} {scenario : Scenario} {session after : Session σ}
  {taken : Course}

/-- The check in a course that is taken expects the owner of the scenario. -/
theorem Takes.checked (takes : harness.Takes scenario session taken after) :
    taken.Checked (harness.expectedOwner scenario) := by
  cases takes with
  | unbuilt => exact .unbuilt _
  | unresolved => exact .unresolved _
  | uninvoked => exact .uninvoked _
  | @answered _ _ symbol invocation _ =>
    generalize Verdict.ofInvocation invocation symbol.member.key.signature = verdict
    cases hcheck : verdict.check (harness.expectedOwner scenario) with
    | error failure => exact .mismatched (Verdict.status_of_check hcheck)
    | ok _ =>
      obtain ⟨howner, hmismatched, -⟩ := Verdict.check_eq_ok_iff.1 hcheck
      exact .verified howner (by rw [Verdict.argumentsMatched, hmismatched]; rfl)

/-- Whatever the store, the host, the source and the session are, the outcome of a run is coherent
in all its parts. -/
theorem coherent_run (harness : Harness σ) (scenario : Scenario) (session : Session σ) :
    (harness.run scenario session).1.Coherent := by
  obtain ⟨taken, after, takes, hrun⟩ := harness.exists_takes scenario session
  rw [hrun]
  exact takes.checked.coherent scenario

end Harness

end Linkage
