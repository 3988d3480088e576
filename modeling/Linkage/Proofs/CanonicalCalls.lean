import Linkage.Call.Invoke
import Linkage.Proofs.ParsedUnits
import Linkage.Proofs.ValueTexts

/-!
# Canonical calls

All scenarios call with the same arguments but for the sensitive value, so the check at the end can
be decided for every body in advance. A faithful echo under the right tag comes back whole
(`check_faithful_iff`), an argument that was tampered with is reported in its slot
(`check_tampered_ne_ok`), and a tag with a colon spoils the slot of the group, because body texts
hold no double quotes (`colon_notMem_of_check_echoedCall`). `Symbol.answers_iff` puts this together
for the call of a symbol.
-/

namespace Linkage

/-! ## The canonical call -/

/-- The arguments of a scenario that drew a sensitive value. -/
def canonicalCall (sensitive : String) : List Value := withSensitive canonicalArguments sensitive

variable {sensitive expected tag : String}

theorem fit_canonicalCall (sensitive : String) :
    fit (canonicalCall sensitive) .canonical = .ok (canonicalCall sensitive) := rfl

/-- What is said of the values of a call, tampered with or not: they have the types of the canonical
signature, one group at the end, and they can be told from their texts. -/
structure IsCanonical (values : List Value) : Prop where
  types : values.map Value.type = Signature.canonical.params
  group : values.flatMap Echo.groupOf = ["some", "strings"]
  legible : ∀ value ∈ values, value.Legible

theorem isCanonical_canonicalCall (sensitive : String) : IsCanonical (canonicalCall sensitive) where
  types := rfl
  group := rfl
  legible := by
    intro value hvalue
    have harguments : ∀ value ∈ canonicalArguments, value.Legible := by decide
    rcases List.mem_or_eq_of_mem_set hvalue with hvalue | rfl
    · exact harguments value hvalue
    · trivial

/-- Tampering raises the second argument, which is the first integer. -/
theorem tamperWith_canonicalCall (sensitive : String) :
    tamperWith (canonicalCall sensitive) = (canonicalCall sensitive).set 1 (.byte 43) := rfl

theorem isCanonical_tamperWith (sensitive : String) :
    IsCanonical (tamperWith (canonicalCall sensitive)) where
  types := rfl
  group := rfl
  legible := by
    intro value hvalue
    rw [tamperWith_canonicalCall] at hvalue
    rcases List.mem_or_eq_of_mem_set hvalue with hvalue | rfl
    · exact (isCanonical_canonicalCall sensitive).legible value hvalue
    · trivial

/-! ## Answers to the canonical call -/

/-- The canonical call went through and was answered by the echo of some values. -/
def echoedCall (sensitive tag : String) (values : List Value) : Invocation :=
  ⟨(Echo.ofValues tag values).render, canonicalCall sensitive, canonicalCall sensitive, sensitive⟩

/-- The verdict on an echo under a tag without a colon. -/
theorem ofInvocation_echoedCall {values : List Value} (canonical : IsCanonical values)
    (hcolon : ':' ∉ tag.toList) :
    Verdict.ofInvocation (echoedCall sensitive tag values) .canonical =
      ⟨some tag,
        (List.range Signature.canonical.arity).filter fun slot =>
          decide ((canonicalCall sensitive)[slot]? ≠ values[slot]?),
        Verdict.carries (Echo.ofValues tag values).render sensitive⟩ := by
  have hresult : (echoedCall sensitive tag values).result = (Echo.ofValues tag values).render := rfl
  exact Verdict.ofInvocation_of_readsBack hresult hcolon canonical.types (by decide)
    fun value hvalue htype => (canonical.legible value hvalue).readsBack htype

/-- A check that expects another tag names both. -/
theorem check_echoedCall_of_ne {values : List Value} (canonical : IsCanonical values)
    (hcolon : ':' ∉ tag.toList) (hne : tag ≠ expected) :
    (Verdict.ofInvocation (echoedCall sensitive tag values) .canonical).check expected =
      .error (.wrongOwner expected tag) := by
  rw [ofInvocation_echoedCall canonical hcolon, Verdict.check, if_pos]
  · rfl
  · exact fun howner => hne (Option.some.inj howner)

/-- No check succeeds on an echo under a tag with a colon. -/
theorem colon_notMem_of_check_echoedCall {values : List Value} (canonical : IsCanonical values)
    (hquote : '"' ∉ tag.toList)
    (h : (Verdict.ofInvocation (echoedCall sensitive tag values) .canonical).check expected =
      .ok ()) : ':' ∉ tag.toList := by
  have hresult : (echoedCall sensitive tag values).result = (Echo.ofValues tag values).render := rfl
  -- the group stands in the last slot, and neither of its strings needs quotes
  have hparam : Signature.canonical.params[9]? = some .stringGroup := rfl
  have hbound : (canonicalCall sensitive)[9]? = some (.group (values.flatMap Echo.groupOf)) := by
    rw [canonical.group]
    rfl
  have hgroup : '"' ∉ Echo.groupChars (values.flatMap Echo.groupOf) := by
    rw [canonical.group]
    decide
  exact Verdict.colon_notMem_of_check hresult hparam hbound hquote hgroup h

/-- The echo carries the sensitive value, unless that is empty. -/
theorem carries_canonicalCall (tag sensitive : String) :
    Verdict.carries (Echo.ofValues tag (canonicalCall sensitive)).render sensitive =
      !sensitive.isEmpty := by
  apply Verdict.carries_render
  refine Or.inr (List.mem_flatMap.2 ⟨.string sensitive, List.mem_set (by decide) _, ?_⟩)
  simp [Echo.fixedOf, Value.text, Value.chars]

/-- A faithful echo passes the check when its tag is the one expected and has no colon, and when
there is something to carry. -/
theorem check_faithful_iff (hquote : '"' ∉ tag.toList) :
    (Verdict.ofInvocation (echoedCall sensitive tag (canonicalCall sensitive)) .canonical).check
        expected = .ok () ↔
      tag = expected ∧ ':' ∉ tag.toList ∧ sensitive ≠ "" := by
  have canonical := isCanonical_canonicalCall sensitive
  constructor
  · intro h
    have hcolon := colon_notMem_of_check_echoedCall canonical hquote h
    rw [ofInvocation_echoedCall canonical hcolon, carries_canonicalCall,
      Verdict.check_eq_ok_iff] at h
    obtain ⟨howner, -, htaint⟩ := h
    refine ⟨Option.some.inj howner, hcolon, ?_⟩
    simpa using htaint
  · rintro ⟨rfl, hcolon, hne⟩
    rw [ofInvocation_echoedCall canonical hcolon, carries_canonicalCall, Verdict.check_eq_ok_iff]
    refine ⟨rfl, ?_, ?_⟩
    · simp
    · simpa using hne

/-- The echo of arguments that were tampered with never passes a check. -/
theorem check_tampered_ne_ok (hquote : '"' ∉ tag.toList) :
    (Verdict.ofInvocation (echoedCall sensitive tag (tamperWith (canonicalCall sensitive)))
      .canonical).check expected ≠ .ok () := by
  intro h
  have canonical := isCanonical_tamperWith sensitive
  have hcolon := colon_notMem_of_check_echoedCall canonical hquote h
  rw [ofInvocation_echoedCall canonical hcolon, Verdict.check_eq_ok_iff] at h
  obtain ⟨-, hmismatched, -⟩ := h
  -- the second slot was raised, so it is reported
  have hslot := List.filter_eq_nil_iff.1 hmismatched 1 (by decide)
  rw [tamperWith_canonicalCall] at hslot
  exact hslot rfl

/-- Calling a member of the canonical signature runs its body on the arguments as they are. -/
theorem Symbol.call_canonicalCall {symbol : Symbol}
    (hkey : symbol.member.key.signature = .canonical) (sensitive : String) :
    symbol.call (canonicalCall sensitive) sensitive =
      (symbol.body.run (canonicalCall sensitive)).map fun result =>
        ⟨result, canonicalCall sensitive, canonicalCall sensitive, sensitive⟩ := by
  have hfit : (fit (canonicalCall sensitive) .canonical).mapError Misfit.error =
      .ok (canonicalCall sensitive) :=
    Except.mapError_eq_ok_iff.2 (fit_canonicalCall sensitive)
  rw [Symbol.call, hkey, hfit, Except.ok_bind]
  cases symbol.body.run (canonicalCall sensitive) <;> rfl

/-- The canonical call of a member passes a check exactly when the body transfers under the tag
expected, the tag has no colon, and there is something to carry. -/
theorem Symbol.answers_iff {symbol : Symbol} (hkey : symbol.member.key.signature = .canonical)
    (hquote : symbol.body.Unquoted) :
    (∃ invocation, symbol.call (canonicalCall sensitive) sensitive = .ok invocation ∧
      (Verdict.ofInvocation invocation symbol.member.key.signature).check expected = .ok ()) ↔
    symbol.body = .transfer expected ∧ ':' ∉ expected.toList ∧ sensitive ≠ "" := by
  rw [Symbol.call_canonicalCall hkey, hkey]
  cases hbody : symbol.body with
  | transfer tag =>
    rw [hbody] at hquote
    constructor
    · rintro ⟨invocation, ⟨⟩, hcheck⟩
      obtain ⟨rfl, hcolon, hne⟩ := (check_faithful_iff hquote).1 hcheck
      exact ⟨rfl, hcolon, hne⟩
    · rintro ⟨⟨⟩, hcolon, hne⟩
      exact ⟨_, rfl, (check_faithful_iff hquote).2 ⟨rfl, hcolon, hne⟩⟩
  | raise message =>
    constructor
    · rintro ⟨invocation, ⟨⟩, -⟩
    · rintro ⟨⟨⟩, -⟩
  | tamper tag =>
    rw [hbody] at hquote
    constructor
    · rintro ⟨invocation, ⟨⟩, hcheck⟩
      exact absurd hcheck (check_tampered_ne_ok hquote)
    · rintro ⟨⟨⟩, -⟩

end Linkage
