import Linkage.Proofs.FaithfulBodies

/-!
# Verdicts on tampering bodies

A tampering body raises the first integer among its arguments and answers with the echo of the
result. Raising is a change of one value at one place (`tamperWith_eq_modify`), it keeps the type of
the value and never gives the value itself, the greatest integer of a width included
(`Value.raised_ne`). So the changed list is one whose texts read back as well, and it differs from
the bound one at the first integer and nowhere else (`getElem?_ne_tamperWith_iff`): the verdict
reports that slot (`Verdict.ofInvocation_of_tamper`). Without an integer nothing is changed, and the
body answers like one that transfers.
-/

namespace Linkage

namespace Value

/-- Whether a value is an integer. A character is none. -/
def isIntegral : Value → Bool
  | byte _ | short _ | int _ | long _ => true
  | _ => false

/-- The next integer of the same width, the least one behind the greatest. -/
def raised : Value → Value
  | byte n => byte (n + 1)
  | short n => short (n + 1)
  | int n => int (n + 1)
  | long n => long (n + 1)
  | value => value

@[simp] theorem type_raised (value : Value) : value.raised.type = value.type := by
  cases value <;> rfl

theorem Legible.raised {value : Value} (h : value.Legible) : value.raised.Legible := by
  cases value <;> exact h

/-- No integer is its own successor, whatever its width. -/
theorem raised_ne {value : Value} (h : value.isIntegral = true) : value.raised ≠ value := by
  intro hsame
  cases value with
  | byte n => exact absurd (Int8.add_eq_left.1 (byte.inj hsame)) (by decide)
  | short n => exact absurd (Int16.add_eq_left.1 (short.inj hsame)) (by decide)
  | int n => exact absurd (Int32.add_eq_left.1 (int.inj hsame)) (by decide)
  | long n => exact absurd (Int64.add_eq_left.1 (long.inj hsame)) (by decide)
  | _ => cases h

end Value

section

variable {values : List Value} {value : Value}

theorem tamperWith_cons (value : Value) (values : List Value) :
    tamperWith (value :: values) =
      if value.isIntegral then value.raised :: values else value :: tamperWith values := by
  cases value <;> rfl

/-- Tampering raises the first integer, where there is one. -/
theorem tamperWith_eq_modify (values : List Value) :
    tamperWith values = values.modify (values.findIdx Value.isIntegral) Value.raised := by
  induction values with
  | nil => rfl
  | cons value values ih =>
    rw [tamperWith_cons, List.findIdx_cons]
    cases hvalue : value.isIntegral with
    | true => rfl
    | false =>
      rw [ih]
      rfl

theorem map_type_tamperWith (values : List Value) :
    (tamperWith values).map Value.type = values.map Value.type := by
  induction values with
  | nil => rfl
  | cons value values ih =>
    rw [tamperWith_cons]
    split
    · rw [List.map_cons, List.map_cons, Value.type_raised]
    · rw [List.map_cons, List.map_cons, ih]

theorem legible_of_mem_tamperWith (h : ∀ value ∈ values, value.Legible)
    (hvalue : value ∈ tamperWith values) : value.Legible := by
  induction values with
  | nil => cases hvalue
  | cons first values ih =>
    have hfirst := h first List.mem_cons_self
    have hmore : ∀ other ∈ values, other.Legible := fun other hother =>
      h other (List.mem_cons_of_mem first hother)
    rw [tamperWith_cons] at hvalue
    split at hvalue
    · rcases List.mem_cons.1 hvalue with rfl | hvalue
      · exact hfirst.raised
      · exact hmore value hvalue
    · rcases List.mem_cons.1 hvalue with rfl | hvalue
      · exact hfirst
      · exact ih hmore hvalue

/-- Tampering changes the slot of the first integer and no other one. -/
theorem getElem?_ne_tamperWith_iff {slot : Nat} :
    values[slot]? ≠ (tamperWith values)[slot]? ↔
      values.findIdx? Value.isIntegral = some slot := by
  rw [List.findIdx?_eq_some_iff_findIdx_eq, tamperWith_eq_modify, List.getElem?_modify]
  -- behind the last slot there is nothing on either side
  by_cases hbound : slot < values.length
  · rw [List.getElem?_eq_getElem hbound]
    by_cases hfirst : values.findIdx Value.isIntegral = slot
    · have hintegral : values[slot].isIntegral = true := by
        subst hfirst
        exact List.findIdx_getElem
      simp [hbound, hfirst, (Value.raised_ne hintegral).symm]
    · simp [hfirst]
  · rw [List.getElem?_eq_none (Nat.le_of_not_lt hbound)]
    simp [hbound]

/-- Without an integer there is nothing to raise. -/
theorem tamperWith_eq_self (h : values.findIdx? Value.isIntegral = none) :
    tamperWith values = values := by
  have hlength : values.findIdx Value.isIntegral = values.length :=
    List.findIdx_eq_length.2 (List.findIdx?_eq_none_iff.1 h)
  rw [tamperWith_eq_modify]
  exact List.modify_eq_self (Nat.le_of_eq hlength.symm)

/-- The slots that tampering changes are the slot of the first integer. -/
theorem filter_ne_tamperWith (values : List Value) :
    ((List.range values.length).filter fun slot =>
      decide (values[slot]? ≠ (tamperWith values)[slot]?)) =
        (values.findIdx? Value.isIntegral).toList := by
  simp only [getElem?_ne_tamperWith_iff]
  cases hfirst : values.findIdx? Value.isIntegral with
  | none => simp
  | some slot =>
    have hslot : slot < values.length := (List.findIdx?_eq_some_iff_findIdx_eq.1 hfirst).1
    simp only [Option.some.injEq, eq_comm (a := slot), Option.toList_some]
    rw [List.filter_eq, List.count_range, if_pos hslot, List.replicate_one]

end

namespace Verdict

/-- A body that tampers is caught at the slot that it changed. Whatever it was bound to by fitting,
with values that can be told from their texts, and whatever the sensitive value is, the verdict
names its tag and reports the slot of the first integer, also when the integer is the greatest of
its width. If nothing that was bound is an integer, the answer is the one of a body that transfers,
and no slot is reported. -/
theorem ofInvocation_of_tamper {signature : Signature} {values bound : List Value}
    {sensitive tag : String} (hlast : ParamType.stringGroup ∉ signature.params.dropLast)
    (hfit : fit values signature = .ok bound)
    (hlegible : ∀ value ∈ bound, value.Legible) (hcolon : ':' ∉ tag.toList) :
    ∃ result, (Body.tamper tag).run bound = .ok result ∧
      let verdict := ofInvocation ⟨result, values, bound, sensitive⟩ signature
      verdict.owner = some tag ∧
        (∀ slot, bound.findIdx? Value.isIntegral = some slot → verdict.mismatched = [slot]) ∧
        (bound.findIdx? Value.isIntegral = none →
          (Body.transfer tag).run bound = .ok result ∧ verdict.mismatched = []) := by
  have htypes : bound.map Value.type = signature.params := (fit_eq_ok_iff.1 hfit).types
  have harity : signature.arity = bound.length := by
    rw [Signature.arity, ← htypes, List.length_map]
  refine ⟨(Echo.ofValues tag (tamperWith bound)).render, rfl, ?_⟩
  have hverdict : ofInvocation ⟨(Echo.ofValues tag (tamperWith bound)).render, values, bound,
      sensitive⟩ signature = ⟨some tag, (bound.findIdx? Value.isIntegral).toList,
        carries (Echo.ofValues tag (tamperWith bound)).render sensitive⟩ := by
    rw [ofInvocation_of_readsBack rfl hcolon ((map_type_tamperWith bound).trans htypes) hlast
      fun value hvalue htype => (legible_of_mem_tamperWith hlegible hvalue).readsBack htype]
    rw [harity, filter_ne_tamperWith]
  dsimp only
  rw [hverdict]
  refine ⟨rfl, fun slot hslot => ?_, fun hnone => ⟨?_, ?_⟩⟩
  · rw [hslot]
    rfl
  · rw [Body.run, tamperWith_eq_self hnone]
  · rw [hnone]
    rfl

end Verdict

/-! ## The greatest integer, and none at all -/

namespace Tampered

/-- A signature with two integers in the middle and a group at the end. -/
def signature : Signature := ⟨[.double, .char, .int, .byte, .stringGroup]⟩

/-- Arguments with the greatest integer first among the integers, a digit in front of it that is
none, and loose strings. -/
def values : List Value :=
  [.double 0x7ff8000000000000, .char '7', .int Int32.maxValue, .byte 1, .string "", .string "2 3"]

/-- What the arguments are bound to. -/
def bound : List Value := values.take 4 ++ [.group ["", "2 3"]]

end Tampered

/-- The greatest integer comes back as the least one and is reported, and nothing is where there is
no integer. -/
theorem Verdict.ofInvocation_of_tamper_greatest :
    (∃ result, (Body.tamper "A").run Tampered.bound = .ok result ∧
      (ofInvocation ⟨result, Tampered.values, Tampered.bound, "2 3"⟩
        Tampered.signature).mismatched = [2]) ∧
    ∃ result, (Body.tamper "A").run [.char '7'] = .ok result ∧
      (Body.transfer "A").run [.char '7'] = .ok result ∧
      (ofInvocation ⟨result, [.char '7'], [.char '7'], ""⟩ ⟨[.char]⟩).mismatched = [] := by
  constructor
  · have hfit : fit Tampered.values Tampered.signature = .ok Tampered.bound := rfl
    obtain ⟨result, hrun, -, hreported, -⟩ :=
      ofInvocation_of_tamper (by decide) hfit (by decide) (by decide : ':' ∉ "A".toList)
    exact ⟨result, hrun, hreported 2 (by decide)⟩
  · have hfit : fit [.char '7'] ⟨[.char]⟩ = .ok [.char '7'] := rfl
    obtain ⟨result, hrun, -, -, hkept⟩ :=
      ofInvocation_of_tamper (by decide) hfit (by decide) (by decide : ':' ∉ "A".toList)
    exact ⟨result, hrun, hkept (by decide)⟩

end Linkage
