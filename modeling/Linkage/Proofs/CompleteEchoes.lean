import Linkage.Proofs.Verdicts

/-!
# Complete echoes

Decoding an echo at a signature reads as many fixed texts as there are fixed parameters, and the
group only if the signature is variadic. `Echo.trim` keeps what is read, and decoding the trimmed
echo is decoding the echo (`Echo.decode_trim`).

A verdict without a changed slot therefore says that the trimmed echo is complete, and nothing about
the rest. `Verdict.complete_iff_trim_eq` puts it together: the echo is complete exactly when there
is no rest, and whatever rest there is makes no difference to the verdict. `Surplus` holds two
answers that are accepted although they echo more than was sent.
-/

namespace Linkage

namespace Signature

variable {signature : Signature}

/-- A group that can only stand last is not among the fixed parameters. -/
theorem notMem_fixedParams (hlast : ParamType.stringGroup ∉ signature.params.dropLast) :
    ParamType.stringGroup ∉ signature.fixedParams := by
  rw [fixedParams]
  split
  · exact hlast
  · next hvariadic =>
    intro hmem
    rcases List.eq_nil_or_concat signature.params with hnil | ⟨front, last, hsplit⟩
    · rw [hnil] at hmem
      cases hmem
    · rw [List.concat_eq_append] at hsplit
      rw [hsplit, List.dropLast_concat] at hlast
      rw [hsplit] at hmem
      have heq := List.mem_singleton.1 ((List.mem_append.1 hmem).resolve_left hlast)
      exact hvariadic (by simp [isVariadic, hsplit, ← heq])

/-- The group of a variadic signature stands behind the fixed parameters. -/
theorem getElem?_params (h : signature.isVariadic = true) :
    signature.params[signature.fixedParams.length]? = some .stringGroup := by
  rw [params_eq_of_isVariadic h]
  exact List.getElem?_concat_length

theorem length_fixedParams_le (signature : Signature) :
    signature.fixedParams.length ≤ signature.arity := by
  rw [fixedParams, arity]
  split
  · rw [List.length_dropLast]
    exact Nat.sub_le _ _
  · exact Nat.le_refl _

/-- The strings that were bound to the group of a member; none if the member has no group. -/
def groupOfBound (signature : Signature) (bound : List Value) : List String :=
  if signature.isVariadic then bound[signature.fixedParams.length]?.elim [] Echo.groupOf else []

end Signature

namespace Echo

variable {echo : Echo} {signature : Signature} {group fixed : List String} {types : List ParamType}

/-- What decoding at a signature reads of an echo. -/
def trim (echo : Echo) (signature : Signature) : Echo where
  owner := echo.owner
  group := if signature.isVariadic then echo.group else []
  fixed := echo.fixed.take signature.fixedParams.length

/-- An echo is complete when it has one fixed text for each fixed parameter, and the strings that
were bound to the group. -/
structure Complete (echo : Echo) (signature : Signature) (bound : List Value) : Prop where
  length_fixed : echo.fixed.length = signature.fixedParams.length
  group_eq : echo.group = signature.groupOfBound bound

/-! ## What decoding reads -/

/-- A parameter other than a group is decoded from the first of the fixed texts that are left, if
there is one. -/
theorem decodeAs_cons_of_ne {type : ParamType} (h : type ≠ .stringGroup) (fixed : List String)
    (types : List ParamType) :
    decodeAs group fixed (type :: types) =
      (fixed.head?.bind fun text => Value.read type text.toList) ::
        decodeAs group fixed.tail types := by
  cases fixed with
  | nil =>
    cases type with
    | stringGroup => exact absurd rfl h
    | _ => rfl
  | cons text fixed => exact decodeAs_cons h text fixed types

theorem length_decodeAs (h : ParamType.stringGroup ∉ types) :
    (decodeAs group fixed types).length = types.length := by
  induction types generalizing fixed with
  | nil => simp [decodeAs]
  | cons type types ih =>
    have hne := (List.ne_of_not_mem_cons h).symm
    have hrest := List.not_mem_of_not_mem_cons h
    rw [decodeAs_cons_of_ne hne, List.length_cons, List.length_cons, ih hrest]

/-- At parameters without a group, decoding reads a fixed text for each of them and no group. -/
theorem decodeAs_take (h : ParamType.stringGroup ∉ types) (group other fixed : List String) :
    decodeAs group (fixed.take types.length) types = decodeAs other fixed types := by
  induction types generalizing fixed with
  | nil => simp [decodeAs]
  | cons type types ih =>
    have hne := (List.ne_of_not_mem_cons h).symm
    have hrest := List.not_mem_of_not_mem_cons h
    have htail : (fixed.take (types.length + 1)).tail = fixed.tail.take types.length := by
      cases fixed <;> simp
    rw [decodeAs_cons_of_ne hne, decodeAs_cons_of_ne hne, List.length_cons, htail, ih hrest,
      List.head?_take, if_neg (Nat.succ_ne_zero _)]

/-- A group behind parameters without one is decoded to the whole group. -/
theorem decodeAs_append_group (h : ParamType.stringGroup ∉ types) :
    decodeAs group fixed (types ++ [.stringGroup]) =
      decodeAs group fixed types ++ [some (.group group)] := by
  induction types generalizing fixed with
  | nil => cases fixed <;> rfl
  | cons type types ih =>
    have hne := (List.ne_of_not_mem_cons h).symm
    have hrest := List.not_mem_of_not_mem_cons h
    rw [List.cons_append, decodeAs_cons_of_ne hne, decodeAs_cons_of_ne hne, ih hrest,
      List.cons_append]

/-- A value is decoded only where there is a fixed text. -/
theorem lt_length_of_decodeAs {slot : Nat} {value : Value} (h : ParamType.stringGroup ∉ types)
    (hvalue : (decodeAs group fixed types)[slot]? = some (some value)) : slot < fixed.length := by
  induction types generalizing fixed slot with
  | nil => simp [decodeAs] at hvalue
  | cons type types ih =>
    have hne := (List.ne_of_not_mem_cons h).symm
    have hrest := List.not_mem_of_not_mem_cons h
    rw [decodeAs_cons_of_ne hne] at hvalue
    cases fixed with
    | nil =>
      cases slot with
      | zero => cases hvalue
      | succ slot => exact absurd (ih hrest hvalue) (Nat.not_lt_zero slot)
    | cons text fixed =>
      cases slot with
      | zero => exact Nat.zero_lt_succ _
      | succ slot => exact Nat.succ_lt_succ (ih hrest hvalue)

/-- Decoding reads the fixed parameters from the fixed texts, and the group behind them. -/
theorem decode_eq (hlast : ParamType.stringGroup ∉ signature.params.dropLast) :
    echo.decode signature =
      decodeAs echo.group echo.fixed signature.fixedParams ++
        if signature.isVariadic then [some (.group echo.group)] else [] := by
  rw [decode]
  cases hvariadic : signature.isVariadic with
  | true =>
    rw [Signature.params_eq_of_isVariadic hvariadic,
      decodeAs_append_group (Signature.notMem_fixedParams hlast)]
    rfl
  | false =>
    rw [← Signature.fixedParams_of_not_isVariadic hvariadic]
    exact (List.append_nil _).symm

/-- Decoding a trimmed echo is decoding the echo. -/
theorem decode_trim (hlast : ParamType.stringGroup ∉ signature.params.dropLast) :
    (echo.trim signature).decode signature = echo.decode signature := by
  rw [decode_eq hlast, decode_eq hlast, trim,
    decodeAs_take (Signature.notMem_fixedParams hlast) _ echo.group]
  cases signature.isVariadic <;> rfl

end Echo

namespace Verdict

variable {invocation : Invocation} {signature : Signature} {echo : Echo}

/-- A slot is kept when the value that was sent is there and is decoded again. -/
theorem slotKept_eq_true_iff {bound : List Value} {echoed : List (Option Value)} {slot : Nat} :
    slotKept bound echoed slot = true ↔
      ∃ sent, bound[slot]? = some sent ∧ echoed[slot]? = some (some sent) := by
  rw [slotKept]
  split
  · next sent back hsent hback => simp [hsent, hback, eq_comm]
  · next hnone =>
    simp only [Bool.false_eq_true, false_iff]
    rintro ⟨sent, hsent, hback⟩
    exact hnone sent sent hsent hback

/-- A verdict reports no slot when every value that was sent is decoded again. -/
theorem mismatched_eq_nil_iff (hparse : Echo.parse invocation.result = some echo) :
    (ofInvocation invocation signature).mismatched = [] ↔
      ∀ slot < signature.arity, ∃ sent, invocation.bound[slot]? = some sent ∧
        (echo.decode signature)[slot]? = some (some sent) := by
  rw [ofInvocation_of_parse hparse, List.filter_eq_nil_iff]
  simp [slotKept_eq_true_iff]

/-- What is read of an echo is complete when every value that was sent is decoded again. -/
theorem complete_trim {bound : List Value}
    (hlast : ParamType.stringGroup ∉ signature.params.dropLast)
    (hback : ∀ slot < signature.arity, ∃ sent, bound[slot]? = some sent ∧
      (echo.decode signature)[slot]? = some (some sent)) :
    (echo.trim signature).Complete signature bound := by
  constructor
  · show (echo.fixed.take signature.fixedParams.length).length = signature.fixedParams.length
    rw [List.length_take]
    refine Nat.min_eq_left (Nat.le_of_not_lt fun hshort => ?_)
    -- the first parameter without a fixed text would be a slot that is not decoded
    have hfixed := Signature.notMem_fixedParams hlast
    obtain ⟨sent, -, hsent⟩ :=
      hback echo.fixed.length (Nat.lt_of_lt_of_le hshort signature.length_fixedParams_le)
    rw [Echo.decode_eq hlast,
      List.getElem?_append_left (by rwa [Echo.length_decodeAs hfixed])] at hsent
    exact Nat.lt_irrefl _ (Echo.lt_length_of_decodeAs hfixed hsent)
  · show (if signature.isVariadic then echo.group else []) = signature.groupOfBound bound
    rw [Signature.groupOfBound]
    cases hvariadic : signature.isVariadic with
    | false => rfl
    | true =>
      have hparam := Signature.getElem?_params hvariadic
      obtain ⟨sent, hsent, hdecoded⟩ := hback _ (List.getElem?_eq_some_iff.1 hparam).1
      rw [Echo.decode, Echo.getElem?_decodeAs hparam] at hdecoded
      rw [hsent, ← Option.some.inj (Option.some.inj hdecoded)]
      rfl

/-- A verdict without a changed slot says of the echo that what is read of it is complete. The echo
itself is complete exactly when it is all read. The verdict does not depend on the rest: an answer
whose echo agrees in what is read gets one without a changed slot as well. -/
theorem complete_iff_trim_eq (hlast : ParamType.stringGroup ∉ signature.params.dropLast)
    (hparse : Echo.parse invocation.result = some echo)
    (hclean : (ofInvocation invocation signature).mismatched = []) :
    (echo.trim signature).Complete signature invocation.bound ∧
      (echo.Complete signature invocation.bound ↔ echo.trim signature = echo) ∧
      ∀ (other : Invocation) (more : Echo), other.bound = invocation.bound →
        Echo.parse other.result = some more → more.trim signature = echo.trim signature →
        (ofInvocation other signature).mismatched = [] := by
  have hback := (mismatched_eq_nil_iff hparse).1 hclean
  have htrim := complete_trim hlast hback
  refine ⟨htrim, ⟨fun hcomplete => ?_, fun hread => hread ▸ htrim⟩, ?_⟩
  · have hfixed : (echo.trim signature).fixed = echo.fixed :=
      List.take_of_length_le (Nat.le_of_eq hcomplete.length_fixed)
    have hgroup : (echo.trim signature).group = echo.group :=
      htrim.group_eq.trans hcomplete.group_eq.symm
    cases echo
    exact congr (congrArg (Echo.mk _) hgroup) hfixed
  · intro other more hbound hmore hsame
    rw [mismatched_eq_nil_iff hmore, hbound, ← Echo.decode_trim hlast, hsame,
      Echo.decode_trim hlast]
    exact hback

end Verdict

/-! ## Answers that echo too much -/

namespace Surplus

/-- The signature of a member with one fixed parameter. -/
def signature : Signature := ⟨[.boolean]⟩

/-- A call of the member, with a given answer. -/
def call (echo : Echo) : Invocation := ⟨echo.render, [.boolean true], [.boolean true], "secret"⟩

/-- The answer to such a call. -/
def exact : Echo := ⟨"A", [], ["true"]⟩

/-- An answer with another fixed text, which no parameter asks for. -/
def slots : Echo := ⟨"A", [], ["true", "secret"]⟩

/-- An answer with a group, which the member does not take. -/
def grouped : Echo := ⟨"A", ["secret"], ["true"]⟩

theorem parse_exact : Echo.parse (call exact).result = some exact :=
  Echo.parse_render exact (by decide)

theorem parse_slots : Echo.parse (call slots).result = some slots :=
  Echo.parse_render slots (by decide)

theorem parse_grouped : Echo.parse (call grouped).result = some grouped :=
  Echo.parse_render grouped (by decide)

/-- An answer that is decoded to what was sent has no changed slot. -/
theorem mismatched_call {echo : Echo} (hparse : Echo.parse (call echo).result = some echo)
    (hdecode : echo.decode signature = [some (.boolean true)]) :
    (Verdict.ofInvocation (call echo) signature).mismatched = [] := by
  rw [Verdict.ofInvocation_of_parse hparse, hdecode]
  rfl

/-- Such an answer passes the check, if the sensitive value is among its texts. -/
theorem check_call {echo : Echo} (hparse : Echo.parse (call echo).result = some echo)
    (hdecode : echo.decode signature = [some (.boolean true)]) (howner : echo.owner = "A")
    (hcarries : "secret" ∈ echo.group ∨ "secret" ∈ echo.fixed) :
    (Verdict.ofInvocation (call echo) signature).check "A" = .ok () := by
  have hcarried : Verdict.carries echo.render "secret" = true := by
    rw [Verdict.carries_render hcarries]
    decide
  refine Verdict.check_eq_ok_iff.2 ⟨?_, mismatched_call hparse hdecode, ?_⟩
  · rw [Verdict.ofInvocation_of_parse hparse, howner]
  · rw [Verdict.ofInvocation_of_parse hparse]
    dsimp only [call]
    exact hcarried

end Surplus

/-- The plain answer is complete, and the answer with another fixed text has no changed slot
either. -/
theorem Verdict.complete_exact :
    Surplus.exact.Complete Surplus.signature [.boolean true] ∧
      (ofInvocation (Surplus.call Surplus.slots) Surplus.signature).mismatched = [] := by
  have hlast : ParamType.stringGroup ∉ Surplus.signature.params.dropLast := by decide
  have hclean : (ofInvocation (Surplus.call Surplus.exact) Surplus.signature).mismatched = [] :=
    Surplus.mismatched_call Surplus.parse_exact rfl
  obtain ⟨-, hcomplete, hsame⟩ := complete_iff_trim_eq hlast Surplus.parse_exact hclean
  exact ⟨hcomplete.2 rfl, hsame _ _ rfl Surplus.parse_slots rfl⟩

/-- An answer with a fixed text too many passes the check, and so does one with a group for a member
without one. Neither echo is complete. -/
theorem Verdict.check_surplus :
    ((ofInvocation (Surplus.call Surplus.slots) Surplus.signature).check "A" = .ok () ∧
        ¬ Surplus.slots.Complete Surplus.signature [.boolean true]) ∧
      (ofInvocation (Surplus.call Surplus.grouped) Surplus.signature).check "A" = .ok () ∧
        ¬ Surplus.grouped.Complete Surplus.signature [.boolean true] := by
  refine ⟨⟨?_, ?_⟩, ?_, ?_⟩
  · exact Surplus.check_call Surplus.parse_slots rfl rfl (Or.inr (by decide))
  · rintro ⟨hlength, -⟩
    exact absurd hlength (by decide)
  · exact Surplus.check_call Surplus.parse_grouped rfl rfl (Or.inl (by decide))
  · rintro ⟨-, hgroup⟩
    exact absurd hgroup (by decide)

end Linkage
