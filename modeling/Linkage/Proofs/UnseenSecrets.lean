import Linkage.Proofs.IndependentRuns

/-!
# Secrets that are not seen

The sensitive value stands in the middle of the answer from which the outcome is read, next to a tag
that the payload chose. It has no say in the outcome all the same, as long as it is not empty. Body
texts hold no double quotes, so whatever a tag imitates is over before the fixed part begins
(`Echo.parse_render_fixed`), and the value comes back in its own slot, however it is made up.

`Verdict.ofInvocation_withSensitive` states this for the verdict on one echo, `Symbol.verdict_call`
for the call of a symbol, and `Harness.run_withSource_constant` for a whole run. An empty value is
never found in an answer, which is the one thing a check could tell (`Verdict.carries`).
-/

namespace Linkage

variable {tag first second : String} {values back : List Value}

/-! ## Values with another group -/

/-- The slot of the group in the canonical signature. -/
def groupSlot : Nat := 9

/-- Canonical values end with their group, and there is no other one. -/
theorem IsCanonical.exists_front (canonical : IsCanonical values) :
    ∃ front strings, values = front ++ [.group strings] ∧ front.length = groupSlot ∧
      ∀ value ∈ front, value.type ≠ .stringGroup := by
  have hparams : Signature.canonical.params =
      Signature.canonical.params.dropLast ++ [.stringGroup] := rfl
  rcases List.eq_nil_or_concat values with rfl | ⟨front, last, hvalues⟩
  · cases canonical.types
  rw [List.concat_eq_append] at hvalues
  have htypes := canonical.types
  rw [hvalues, List.map_append, hparams] at htypes
  obtain ⟨hfront, hlast⟩ := List.append_inj' htypes rfl
  have hlength := congrArg List.length hfront
  rw [List.length_map] at hlength
  refine ⟨front, values.flatMap Echo.groupOf, ?_, hlength, fun value hvalue htype => ?_⟩
  · rw [hvalues, ← Echo.eq_group_of_mem (by rw [← hvalues, canonical.types]; decide)
      (List.mem_append_right front List.mem_cons_self) (List.head_eq_of_cons_eq hlast)]
  · have hmem : ParamType.stringGroup ∈ Signature.canonical.params.dropLast := by
      rw [← hfront, ← htype]
      exact List.mem_map_of_mem hvalue
    exact absurd hmem (by decide)

/-- Canonical values with another group have the echo with another group. -/
theorem IsCanonical.ofValues_set (canonical : IsCanonical values) (owner : String)
    (group : List String) :
    Echo.ofValues owner (values.set groupSlot (.group group)) =
      ⟨owner, group, values.flatMap Echo.fixedOf⟩ := by
  obtain ⟨front, strings, rfl, hlength, hfront⟩ := canonical.exists_front
  have hnone : front.flatMap Echo.groupOf = [] :=
    List.flatMap_eq_nil_iff.2 fun value hvalue => Echo.groupOf_of_type_ne (hfront value hvalue)
  rw [List.set_append_right _ _ (by omega), ← hlength, Nat.sub_self]
  simp [Echo.ofValues, hnone, Echo.groupOf, Echo.fixedOf]

/-- The verdict on an echo of canonical values that is read with another owner or another group. -/
theorem Verdict.ofInvocation_of_parse_canonical {sensitive owner : String} {group : List String}
    (canonical : IsCanonical values)
    (hparse : Echo.parse (Echo.ofValues tag values).render =
      some ⟨owner, group, values.flatMap Echo.fixedOf⟩) :
    ofInvocation (echoedCall sensitive tag values) .canonical =
      ⟨some owner,
        (List.range Signature.canonical.arity).filter fun slot =>
          decide ((canonicalCall sensitive)[slot]? ≠ (values.set groupSlot (.group group))[slot]?),
        carries (Echo.ofValues tag values).render sensitive⟩ := by
  rw [← canonical.ofValues_set] at hparse
  refine ofInvocation_of_parse_ofValues hparse ?_ (by decide) fun value hvalue htype => ?_
  · rw [List.map_set, canonical.types]
    rfl
  · rcases List.mem_or_eq_of_mem_set hvalue with hvalue | rfl
    · exact (canonical.legible value hvalue).readsBack htype
    · exact absurd rfl htype

/-! ## Two secrets -/

/-- Two rows with the same value in the sensitive slot agree there, and elsewhere the value makes no
difference. -/
theorem getElem?_withSensitive_ne_iff {sent : List Value} (hsent : sensitiveSlot < sent.length)
    (hback : sensitiveSlot < back.length) (value : Value) (sensitive : String) (slot : Nat) :
    (withSensitive sent sensitive)[slot]? ≠
        ((withSensitive back sensitive).set groupSlot value)[slot]? ↔
      slot ≠ sensitiveSlot ∧ sent[slot]? ≠ (back.set groupSlot value)[slot]? := by
  have hcomm : (withSensitive back sensitive).set groupSlot value =
      (back.set groupSlot value).set sensitiveSlot (.string sensitive) := by
    rw [withSensitive, List.set_comm _ _ (by decide)]
  rw [hcomm, withSensitive]
  by_cases hslot : slot = sensitiveSlot
  · subst hslot
    rw [List.getElem?_set_self hsent, List.getElem?_set_self (by rwa [List.length_set])]
    simp
  · rw [List.getElem?_set_ne (Ne.symm hslot), List.getElem?_set_ne (Ne.symm hslot)]
    simp [hslot]

/-- The verdict on the echo of canonical values does not depend on the value in the sensitive slot,
as long as it is not empty and the tag has no quotes. -/
theorem Verdict.ofInvocation_withSensitive
    (canonical : ∀ sensitive, IsCanonical (withSensitive back sensitive))
    (hquote : '"' ∉ tag.toList) (hfirst : first ≠ "") (hsecond : second ≠ "") :
    ofInvocation (echoedCall first tag (withSensitive back first)) .canonical =
      ofInvocation (echoedCall second tag (withSensitive back second)) .canonical := by
  have hlength : sensitiveSlot < back.length := by
    have htypes := congrArg List.length (canonical "").types
    rw [List.length_map, withSensitive, List.length_set] at htypes
    rw [htypes]
    decide
  have hgroup : '"' ∉ Echo.groupChars ["some", "strings"] := by decide
  have hecho : ∀ sensitive, Echo.ofValues tag (withSensitive back sensitive) =
      ⟨tag, ["some", "strings"], (withSensitive back sensitive).flatMap Echo.fixedOf⟩ := by
    intro sensitive
    rw [Echo.ofValues, (canonical sensitive).group]
  have htaint : ∀ sensitive, sensitive ≠ "" →
      carries (Echo.ofValues tag (withSensitive back sensitive)).render sensitive = true := by
    intro sensitive hne
    have hmem : Value.string sensitive ∈ withSensitive back sensitive := List.mem_set hlength _
    rw [carries_render (Or.inr (List.mem_flatMap.2 ⟨_, hmem, by simp [Echo.fixedOf, Value.text,
      Value.chars]⟩))]
    simpa using hne
  -- whether the echo is read, and with which owner and group, is the same for every value
  have hread : ∀ {one other : String} {found : Echo},
      Echo.parse (Echo.ofValues tag (withSensitive back one)).render = some found →
      Echo.parse (Echo.ofValues tag (withSensitive back other)).render =
        some ⟨found.owner, found.group, (withSensitive back other).flatMap Echo.fixedOf⟩ := by
    intro one other found hparse
    rw [hecho] at hparse ⊢
    exact (Echo.parse_render_fixed hquote hgroup hparse _).2
  cases hparse : Echo.parse (Echo.ofValues tag (withSensitive back first)).render with
  | none =>
    have hparse' : Echo.parse (Echo.ofValues tag (withSensitive back second)).render = none := by
      cases hother : Echo.parse (Echo.ofValues tag (withSensitive back second)).render with
      | none => rfl
      | some found =>
        rw [hread hother] at hparse
        cases hparse
    rw [ofInvocation, ofInvocation]
    simp only [echoedCall, hparse, hparse', htaint first hfirst, htaint second hsecond]
  | some found =>
    have hsent : sensitiveSlot < canonicalArguments.length := by decide
    have hslots : ∀ slot : Nat, (canonicalCall first)[slot]? ≠
        ((withSensitive back first).set groupSlot (.group found.group))[slot]? ↔
          (canonicalCall second)[slot]? ≠
            ((withSensitive back second).set groupSlot (.group found.group))[slot]? := by
      intro slot
      rw [canonicalCall, canonicalCall, getElem?_withSensitive_ne_iff hsent hlength,
        getElem?_withSensitive_ne_iff hsent hlength]
    rw [ofInvocation_of_parse_canonical (canonical first) (hread hparse),
      ofInvocation_of_parse_canonical (canonical second) (hread hparse),
      htaint first hfirst, htaint second hsecond]
    simp only [hslots]

/-- The call of a member with the canonical signature comes to the same verdict, or fails in the
same way, whatever the sensitive value is. -/
theorem Symbol.verdict_call {symbol : Symbol} (hkey : symbol.member.key.signature = .canonical)
    (hquote : symbol.body.Unquoted) (hfirst : first ≠ "") (hsecond : second ≠ "") :
    (symbol.call (canonicalCall first) first).map (Verdict.ofInvocation · .canonical) =
      (symbol.call (canonicalCall second) second).map (Verdict.ofInvocation · .canonical) := by
  -- both bodies that answer do so with the echo of arguments that were not yet given the value
  have hecho : ∀ back tag, (∀ sensitive, IsCanonical (withSensitive back sensitive)) →
      '"' ∉ tag.toList →
      Verdict.ofInvocation (echoedCall first tag (withSensitive back first)) .canonical =
        Verdict.ofInvocation (echoedCall second tag (withSensitive back second)) .canonical :=
    fun _ _ canonical hquote => Verdict.ofInvocation_withSensitive canonical hquote hfirst hsecond
  rw [call_canonicalCall hkey, call_canonicalCall hkey]
  cases hbody : symbol.body with
  | transfer tag =>
    rw [hbody] at hquote
    have hsame := hecho canonicalArguments tag isCanonical_canonicalCall hquote
    exact congrArg Except.ok hsame
  | raise message => rfl
  | tamper tag =>
    rw [hbody] at hquote
    have hsame := hecho (tamperWith canonicalArguments) tag isCanonical_tamperWith hquote
    exact congrArg Except.ok hsame

namespace Harness

variable {σ : Type} {harness : Harness σ} {scenario : Scenario} {session : Session σ}

/-! ## Two runs -/

/-- The harness with another source of sensitive values. -/
def withSource (harness : Harness σ) (source : Source σ) : Harness σ :=
  { harness with source := source }

/-- With a source that draws one value only, a run changes the state by delivering its answer, if
there is one, and in no other way. -/
theorem exchange_run_of_constant (harness : Harness σ) {value : String}
    (hsource : harness.source = .constant value) (scenario : Scenario) (session : Session σ) :
    (harness.run scenario session).2.exchange =
      (harness.answer? scenario session).elim session.exchange
        (harness.sink.accept session.exchange) := by
  have hinvoke : ∀ symbol, (harness.caller.invoke symbol canonicalArguments session.exchange).2 =
      ((harness.caller.invoke symbol canonicalArguments session.exchange).1.toOption.map
        Invocation.result).elim session.exchange (harness.sink.accept session.exchange) := by
    intro symbol
    rw [Caller.invoke, caller, hsource]
    cases symbol.prepare harness.settings.maxHops with
    | error error => rfl
    | ok _ =>
      dsimp only [Source.constant]
      cases symbol.call (withSensitive canonicalArguments value) value <;> rfl
  obtain ⟨taken, after, takes, hrun⟩ := harness.exists_takes scenario session
  rw [hrun, answer?]
  cases takes with
  | unbuilt builds => simp [builds, Except.toOption]
  | unresolved builds resolves => simp [builds, resolves, Except.toOption]
  | @uninvoked _ _ symbol _ _ builds resolves invokes =>
    have hdelivers := hinvoke symbol
    rw [invokes] at hdelivers
    simpa [builds, resolves, invokes, Except.toOption] using hdelivers
  | @answered _ _ symbol _ _ builds resolves invokes =>
    have hdelivers := hinvoke symbol
    rw [invokes] at hdelivers
    simpa [builds, resolves, invokes, Except.toOption] using hdelivers

/-- Where no body has quotes, a scenario takes the same course for all sensitive values that are not
empty. -/
theorem course_withSource_constant (hhost : harness.host.Unquoted)
    (hcache : session.cache.Reached) (hfirst : first ≠ "") (hsecond : second ≠ "") :
    ((harness.withSource (.constant first)).course scenario session).1 =
      ((harness.withSource (.constant second)).course scenario session).1 := by
  rw [fst_course, fst_course]
  -- nothing is drawn before the call, so the two courses can only part there
  have hbuild : ∀ source, ((harness.withSource source).build scenario session.cache).1 =
      (harness.build scenario session.cache).1 := fun _ => rfl
  have hresolve : ∀ source space, ((harness.withSource source).resolver space).resolve
      (Plan.ofScenario scenario).request =
        (harness.resolver space).resolve (Plan.ofScenario scenario).request := fun _ _ => rfl
  have hexpected : ∀ source, (harness.withSource source).expectedOwner scenario =
      harness.expectedOwner scenario := fun _ => rfl
  simp only [hbuild, hresolve, hexpected]
  cases hspace : (harness.build scenario session.cache).1 with
  | error error => rfl
  | ok space =>
    dsimp only
    cases hsymbol : (harness.resolver space).resolve (Plan.ofScenario scenario).request with
    | error error => rfl
    | ok symbol =>
      have hquote := unquoted_of_resolve hhost hcache hspace hsymbol
      have hkey := signature_of_resolve hsymbol
      have hverdict := Symbol.verdict_call hkey hquote hfirst hsecond
      have hinvoke : ∀ sensitive, ((harness.withSource (.constant sensitive)).caller.invoke symbol
          canonicalArguments session.exchange).1 =
            symbol.prepare harness.settings.maxHops >>= fun _ =>
              symbol.call (canonicalCall sensitive) sensitive :=
        fun _ => fst_invoke symbol canonicalArguments session.exchange
      dsimp only
      rw [hinvoke, hinvoke, hkey]
      cases symbol.prepare harness.settings.maxHops with
      | error error => rfl
      | ok _ =>
        rw [Except.ok_bind, Except.ok_bind]
        cases hone : symbol.call (canonicalCall first) first with
        | error error =>
          rw [hone] at hverdict
          rw [Except.eq_error_of_map_eq_error hverdict.symm]
        | ok invocation =>
          rw [hone] at hverdict
          obtain ⟨other, hother, hsame⟩ := Except.map_eq_ok_iff.1 hverdict.symm
          rw [hother]
          dsimp only at hsame ⊢
          rw [hsame]

/-- Below a host that was parsed from a store, and with a cache that lookups lead to, two runs that
differ in the sensitive value alone have the same outcome in every part, whatever the two values
look like, as long as neither is empty. They leave the same cache behind, and either neither
delivers anything or both deliver one answer each, which is all that may differ. -/
theorem run_withSource_constant {store : Store} {reading : Reading} {settings : Settings}
    {source : Source σ} {sink : Sink σ}
    (made : ofStore store reading settings source sink = .ok harness)
    (reached : session.cache.Reached) (scenario : Scenario) (hfirst : first ≠ "")
    (hsecond : second ≠ "") :
    let one := (harness.withSource (.constant first)).run scenario session
    let other := (harness.withSource (.constant second)).run scenario session
    one.1 = other.1 ∧ one.2.cache = other.2.cache ∧
      (one.2.exchange = session.exchange ∧ other.2.exchange = session.exchange ∨
        ∃ answer answer', one.2.exchange = harness.sink.accept session.exchange answer ∧
          other.2.exchange = harness.sink.accept session.exchange answer') := by
  have hcourse : ((harness.withSource (.constant first)).course scenario session).1 =
      ((harness.withSource (.constant second)).course scenario session).1 :=
    course_withSource_constant (unquoted_host made) reached hfirst hsecond
  have houtcome : ((harness.withSource (.constant first)).run scenario session).1 =
      ((harness.withSource (.constant second)).run scenario session).1 :=
    congrArg (Course.outcome · scenario (harness.expectedOwner scenario)) hcourse
  refine ⟨houtcome, by rw [cache_run, cache_run]; rfl, ?_⟩
  have hone := exchange_run_of_constant (harness.withSource (.constant first)) rfl scenario session
  have hother := exchange_run_of_constant (harness.withSource (.constant second)) rfl scenario
    session
  -- both calls are answered, or neither is, because the traces are the same
  have hanswered : ((harness.withSource (.constant first)).answer? scenario session).isSome =
      ((harness.withSource (.constant second)).answer? scenario session).isSome := by
    rw [Bool.eq_iff_iff, isSome_answer?_iff, isSome_answer?_iff, houtcome]
  rw [hone, hother]
  cases hfound : (harness.withSource (.constant first)).answer? scenario session with
  | none =>
    rw [hfound, Option.isSome_none, eq_comm, Option.isSome_eq_false_iff,
      Option.isNone_iff_eq_none] at hanswered
    rw [hanswered]
    exact Or.inl ⟨rfl, rfl⟩
  | some answer =>
    rw [hfound, Option.isSome_some, eq_comm] at hanswered
    obtain ⟨answer', hanswer'⟩ := Option.isSome_iff_exists.1 hanswered
    rw [hanswer']
    exact Or.inr ⟨answer, answer', rfl, rfl⟩

end Harness

/-- Two values that would spoil an echo if it were not for the quotes: one looks like an echo of its
own, the other holds a quote, a backslash and parentheses. -/
theorem Harness.run_secrets_solo :
    ((Solo.harness.withSource (.constant "B: some strings(true)")).run Solo.scenario
        ⟨.empty, []⟩).1 =
      ((Solo.harness.withSource (.constant ") \"\\ (:")).run Solo.scenario ⟨.empty, []⟩).1 :=
  (run_withSource_constant Solo.made .empty Solo.scenario (by decide) (by decide)).1

end Linkage
