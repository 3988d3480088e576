import Linkage.Conformance.Verdict
import Linkage.Proofs.EchoCodec

/-!
# Verdicts on echoed values

A verdict decodes the echo at the parameters of the member and compares it slot by slot with what
the body was bound to. When an owner without a colon echoes values whose texts read back, decoding
gives those values again, so a slot is reported exactly when it differs
(`Verdict.ofInvocation_of_readsBack`). When the owner has a colon but no quote, the slot of the
group is never right, and no check succeeds (`Verdict.colon_notMem_of_check`).
-/

namespace Linkage

/-- Whether a value is read back from its text. -/
def Value.ReadsBack (value : Value) : Prop := Value.read value.type value.text.toList = some value

instance : DecidablePred Value.ReadsBack :=
  fun value => inferInstanceAs (Decidable (Value.read value.type value.text.toList = some value))

namespace Echo

variable {group : List String} {values : List Value} {value : Value}

/-- A value that is no group adds nothing to the group. -/
theorem groupOf_of_type_ne (h : value.type ≠ .stringGroup) : groupOf value = [] := by
  cases value with
  | group strings => exact absurd rfl h
  | _ => rfl

/-- Where a group can only stand last among several values, it is all there is to their group. -/
theorem eq_group_of_mem (hlast : ParamType.stringGroup ∉ (values.map Value.type).dropLast)
    (hvalue : value ∈ values) (htype : value.type = .stringGroup) :
    value = .group (values.flatMap groupOf) := by
  rcases List.eq_nil_or_concat values with rfl | ⟨front, last, rfl⟩
  · cases hvalue
  rw [List.concat_eq_append] at hlast hvalue ⊢
  rw [List.map_append, List.map_singleton, List.dropLast_concat] at hlast
  have hfront : ∀ other ∈ front, other.type ≠ .stringGroup := fun other hother hgroup =>
    hlast (hgroup ▸ List.mem_map_of_mem hother)
  have hnothing : front.flatMap groupOf = [] :=
    List.flatMap_eq_nil_iff.2 fun other hother => groupOf_of_type_ne (hfront other hother)
  rcases List.mem_append.1 hvalue with hother | hsame
  · exact absurd htype (hfront value hother)
  · obtain rfl := List.mem_singleton.1 hsame
    rw [List.flatMap_append, hnothing]
    cases value with
    | group strings => simp [groupOf]
    | _ => cases htype

/-- A parameter other than a group is decoded from the next fixed text. -/
theorem decodeAs_cons {type : ParamType} (h : type ≠ .stringGroup) (text : String)
    (fixed : List String) (types : List ParamType) :
    decodeAs group (text :: fixed) (type :: types) =
      Value.read type text.toList :: decodeAs group fixed types := by
  cases type with
  | stringGroup => exact absurd rfl h
  | _ => rfl

/-- Decoding gives back values that read back, where all groups among them are the group. -/
theorem decodeAs_eq_map_some
    (hgroup : ∀ value ∈ values, value.type = .stringGroup → value = .group group)
    (hread : ∀ value ∈ values, value.type ≠ .stringGroup → value.ReadsBack) :
    decodeAs group (values.flatMap fixedOf) (values.map Value.type) = values.map some := by
  induction values with
  | nil => rfl
  | cons value values ih =>
    have hmore := ih (fun other hother => hgroup other (List.mem_cons_of_mem _ hother))
      (fun other hother => hread other (List.mem_cons_of_mem _ hother))
    rw [List.map_cons, List.map_cons, List.flatMap_cons]
    by_cases htype : value.type = .stringGroup
    · obtain rfl := hgroup value List.mem_cons_self htype
      rw [fixedOf, List.nil_append, Value.type, decodeAs, hmore]
    · have hback : Value.read value.type value.text.toList = some value :=
        hread value List.mem_cons_self htype
      have hfixed : fixedOf value = [value.text] := by
        cases value with
        | group strings => exact absurd rfl htype
        | _ => rfl
      rw [hfixed, List.singleton_append, decodeAs_cons htype, hback, hmore]

/-- A group parameter is decoded to the whole group, whatever the fixed texts are. -/
theorem getElem?_decodeAs {fixed : List String} {types : List ParamType} {slot : Nat}
    (h : types[slot]? = some .stringGroup) :
    (decodeAs group fixed types)[slot]? = some (some (.group group)) := by
  induction types generalizing fixed slot with
  | nil => simp at h
  | cons type types ih =>
    cases slot with
    | zero =>
      obtain rfl : type = .stringGroup := by simpa using h
      rw [decodeAs]
      rfl
    | succ slot =>
      rw [List.getElem?_cons_succ] at h
      rw [decodeAs.eq_def]
      split
      · next heq => cases heq
      · next heq =>
        obtain ⟨-, rfl⟩ := List.cons.inj heq
        exact ih h
      · next heq =>
        obtain ⟨-, rfl⟩ := List.cons.inj heq
        exact ih h
      · next heq =>
        obtain ⟨-, rfl⟩ := List.cons.inj heq
        exact ih h

/-- Every part of a row stands in the row. -/
theorem infix_intercalate {separator part : List Char} {parts : List (List Char)}
    (h : part ∈ parts) : part <:+: separator.intercalate parts := by
  induction parts with
  | nil => cases h
  | cons first parts ih =>
    cases parts with
    | nil =>
      rw [List.intercalate_singleton]
      obtain rfl := List.mem_singleton.1 h
      exact List.infix_refl part
    | cons second parts =>
      rw [List.intercalate_cons_cons]
      rcases List.mem_cons.1 h with rfl | h
      · rw [List.append_assoc]
        exact List.infix_append_left
      · exact List.infix_append_of_infix_right (ih h)

/-- Every string of the group and every fixed text stands in the echo as it is quoted. -/
theorem quote_infix_chars {echo : Echo} {text : String}
    (h : text ∈ echo.group ∨ text ∈ echo.fixed) : quote text.toList <:+: echo.chars := by
  rw [chars_eq]
  rcases h with hgroup | hfixed
  · obtain ⟨before, behind, hsplit⟩ := List.append_of_mem hgroup
    refine ⟨echo.owner.toList ++ ':' :: groupChars before ++ [' '],
      groupChars behind ++ '(' :: (fixedChars echo.fixed ++ [')']), ?_⟩
    rw [hsplit]
    simp [groupChars]
  · have hrow : quote text.toList <:+: fixedChars echo.fixed :=
      infix_intercalate (List.mem_map_of_mem hfixed)
    apply hrow.trans
    exact ⟨echo.owner.toList ++ ':' :: groupChars echo.group ++ ['('], [')'], by simp⟩

end Echo

namespace Verdict

variable {invocation : Invocation} {signature : Signature} {expected : String}

/-- A check succeeds when owner, arguments and sensitive value are all as they should be. -/
theorem check_eq_ok_iff {verdict : Verdict} :
    verdict.check expected = .ok () ↔
      verdict.owner = some expected ∧ verdict.mismatched = [] ∧ verdict.taintReached = true := by
  rw [check, argumentsMatched]
  split
  · simp [*]
  · split
    · simp_all
    · split <;> simp_all

/-- The verdict on an answer that is an echo. -/
theorem ofInvocation_of_parse {echo : Echo} (h : Echo.parse invocation.result = some echo) :
    ofInvocation invocation signature =
      ⟨some echo.owner,
        (List.range signature.arity).filter fun slot =>
          !slotKept invocation.bound (echo.decode signature) slot,
        carries invocation.result invocation.sensitive⟩ := by
  rw [ofInvocation, h]

/-- An owner is read only off an echo. -/
theorem parse_of_owner {owner : String} (h : (ofInvocation invocation signature).owner = some owner) :
    ∃ echo, Echo.parse invocation.result = some echo ∧ echo.owner = owner := by
  cases hparse : Echo.parse invocation.result with
  | none =>
    rw [ofInvocation, hparse] at h
    cases h
  | some echo =>
    rw [ofInvocation_of_parse hparse] at h
    exact ⟨echo, rfl, Option.some.inj h⟩

/-- Where all values were decoded, a slot is kept when it holds the value that was sent. -/
theorem slotKept_map_some {bound values : List Value} {slot : Nat} (h : slot < values.length) :
    slotKept bound (values.map some) slot = decide (bound[slot]? = values[slot]?) := by
  rw [slotKept, List.getElem?_map, List.getElem?_eq_getElem h, Option.map_some]
  cases bound[slot]? with
  | none => rfl
  | some sent => simp

/-- The verdict on an answer that is read as the echo of values that read back: the slots reported
are those that differ from what the body was bound to. A group can only stand last. -/
theorem ofInvocation_of_parse_ofValues {owner : String} {values : List Value}
    (hparse : Echo.parse invocation.result = some (Echo.ofValues owner values))
    (htypes : values.map Value.type = signature.params)
    (hlast : ParamType.stringGroup ∉ signature.params.dropLast)
    (hread : ∀ value ∈ values, value.type ≠ .stringGroup → value.ReadsBack) :
    ofInvocation invocation signature =
      ⟨some owner,
        (List.range signature.arity).filter fun slot =>
          decide (invocation.bound[slot]? ≠ values[slot]?),
        carries invocation.result invocation.sensitive⟩ := by
  have hdecode : (Echo.ofValues owner values).decode signature = values.map some := by
    rw [← htypes] at hlast
    rw [Echo.decode, ← htypes]
    exact Echo.decodeAs_eq_map_some (fun _ hvalue => Echo.eq_group_of_mem hlast hvalue) hread
  have harity : signature.arity = values.length := by
    rw [Signature.arity, ← htypes, List.length_map]
  rw [ofInvocation_of_parse hparse, hdecode, harity]
  congr 1
  apply List.filter_congr
  intro slot hslot
  rw [slotKept_map_some (List.mem_range.1 hslot), decide_not]

/-- The verdict on the echo of values that read back, under an owner without a colon. -/
theorem ofInvocation_of_readsBack {owner : String} {values : List Value}
    (hresult : invocation.result = (Echo.ofValues owner values).render)
    (hcolon : ':' ∉ owner.toList) (htypes : values.map Value.type = signature.params)
    (hlast : ParamType.stringGroup ∉ signature.params.dropLast)
    (hread : ∀ value ∈ values, value.type ≠ .stringGroup → value.ReadsBack) :
    ofInvocation invocation signature =
      ⟨some owner,
        (List.range signature.arity).filter fun slot =>
          decide (invocation.bound[slot]? ≠ values[slot]?),
        carries invocation.result invocation.sensitive⟩ := by
  refine ofInvocation_of_parse_ofValues ?_ htypes hlast hread
  rw [hresult]
  exact Echo.parse_render _ hcolon

/-- The echo of a value carries it, unless it is empty. -/
theorem carries_render {echo : Echo} {sensitive : String}
    (h : sensitive ∈ echo.group ∨ sensitive ∈ echo.fixed) :
    carries echo.render sensitive = !sensitive.isEmpty := by
  have hoccurs : Text.occursIn (Echo.quote sensitive.toList) echo.render.toList = true := by
    rw [Echo.render, String.toList_ofList]
    exact Text.occursIn_iff.2 (Echo.quote_infix_chars h)
  rw [carries, hoccurs, Bool.or_true, Bool.and_true]

/-- A check that succeeds on the echo of values rules out a colon in an owner without quotes, as
long as the member takes a group and got the group of the values. -/
theorem colon_notMem_of_check {owner : String} {values : List Value} {slot : Nat}
    (hresult : invocation.result = (Echo.ofValues owner values).render)
    (hparam : signature.params[slot]? = some .stringGroup)
    (hbound : invocation.bound[slot]? = some (.group (values.flatMap Echo.groupOf)))
    (hquote : '"' ∉ owner.toList)
    (hgroup : '"' ∉ Echo.groupChars (values.flatMap Echo.groupOf))
    (h : (ofInvocation invocation signature).check expected = .ok ()) : ':' ∉ owner.toList := by
  intro hcolon
  -- the echo is read with another owner, at the cost of a longer group
  obtain ⟨howner, hmismatched, -⟩ := check_eq_ok_iff.1 h
  obtain ⟨found, hparse, -⟩ := parse_of_owner howner
  have hlonger : (values.flatMap Echo.groupOf).length < found.group.length := by
    rw [hresult] at hparse
    have hmem : ':' ∈ (Echo.ofValues owner values).owner.toList := hcolon
    exact Echo.length_group_lt_of_colon_mem hmem hquote hgroup hparse
  have hchanged : slotKept invocation.bound (found.decode signature) slot = false := by
    rw [slotKept, hbound, Echo.decode, Echo.getElem?_decodeAs hparam]
    apply decide_eq_false
    intro hsame
    rw [Value.group.inj hsame] at hlonger
    exact Nat.lt_irrefl _ hlonger
  have hslot : slot < signature.arity := (List.getElem?_eq_some_iff.1 hparam).1
  have hreported : slot ∈ (ofInvocation invocation signature).mismatched := by
    rw [ofInvocation_of_parse hparse]
    exact List.mem_filter.2 ⟨List.mem_range.2 hslot, by rw [hchanged]; rfl⟩
  rw [hmismatched] at hreported
  cases hreported

end Verdict

end Linkage
