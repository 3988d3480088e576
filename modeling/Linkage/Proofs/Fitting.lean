import Linkage.Call.Invoke
import Linkage.Proofs.Except

/-!
# Arguments that fit

`fit` checks arguments step by step and reports the first fault. `Fits` says without any order of
checks which arguments fit a signature and what they are bound to: the fixed parameters take values
of their types, and a string group takes one group or one or more loose strings (`GivesGroup`).
`fit_eq_ok_iff` says that the two agree, so a proof about a successful fit is a proof by cases on
`Fits`: bound values have the types of the parameters (`Fits.types`), and no string is lost
(`Fits.mem_of_string_mem`).
-/

namespace Linkage

/-- The arguments that make up a group: the group as one value, or its strings one by one. The group
may be empty only as one value. -/
inductive GivesGroup : List Value → List String → Prop where
  | packed (strings : List String) : GivesGroup [.group strings] strings
  | loose (first : String) (more : List String) :
      GivesGroup ((first :: more).map .string) (first :: more)

/-- The arguments that fit a signature, and the values they are bound to. -/
inductive Fits (signature : Signature) : List Value → List Value → Prop where
  | fixed {values : List Value} (not_variadic : signature.isVariadic = false)
      (types : values.map Value.type = signature.fixedParams) : Fits signature values values
  | variadic {values given : List Value} {strings : List String}
      (is_variadic : signature.isVariadic = true)
      (types : values.map Value.type = signature.fixedParams) (group : GivesGroup given strings) :
      Fits signature (values ++ given) (values ++ [.group strings])

/-! ## Checks -/

theorem looseStrings_eq_ok_iff {slot : Nat} {values : List Value} {strings : List String} :
    looseStrings slot values = .ok strings ↔ values = strings.map .string := by
  induction values generalizing slot strings with
  | nil => cases strings <;> simp [looseStrings]
  | cons value values ih =>
    cases value with
    | string s =>
      rw [looseStrings, Except.map_eq_ok_iff]
      constructor
      · rintro ⟨more, hmore, rfl⟩
        rw [ih.1 hmore, List.map_cons]
      · intro h
        obtain ⟨first, more, rfl, hfirst, rfl⟩ := List.map_eq_cons_iff.1 h.symm
        exact ⟨more, ih.2 rfl, congrArg (· :: more) (Value.string.inj hfirst).symm⟩
    | _ =>
      constructor
      · rintro ⟨⟩
      · intro h
        obtain ⟨first, more, rfl, ⟨⟩, -⟩ := List.map_eq_cons_iff.1 h.symm

theorem packGroup_eq_ok_iff {slot : Nat} {given : List Value} {strings : List String} :
    packGroup slot given = .ok strings ↔ GivesGroup given strings := by
  rw [packGroup.eq_def]
  split
  · constructor
    · rintro ⟨⟩
    · rintro ⟨⟩
  · constructor
    · rintro ⟨⟩
      exact .packed strings
    · rintro ⟨⟩
      rfl
  · next hne hnot =>
    rw [looseStrings_eq_ok_iff]
    constructor
    · rintro rfl
      cases strings with
      | nil => exact absurd rfl hne
      | cons first more => exact .loose first more
    · intro group
      cases group with
      | packed => exact absurd rfl (hnot _)
      | loose first more => rfl

theorem checkTypes_eq_ok_iff {slot : Nat} {values : List Value} {types : List ParamType}
    (h : types.length ≤ values.length) :
    checkTypes slot values types = .ok () ↔
      (values.take types.length).map Value.type = types := by
  induction values generalizing slot types with
  | nil =>
    obtain rfl : types = [] := List.length_eq_zero_iff.1 (Nat.le_zero.1 h)
    simp [checkTypes]
  | cons value values ih =>
    cases types with
    | nil => simp [checkTypes]
    | cons type types =>
      rw [checkTypes]
      split
      · next htype => simp [ih (Nat.le_of_succ_le_succ h), htype]
      · next htype => simp [htype]

/-! ## Fitting -/

/-- What is left of a fit when there are enough arguments for the fixed parameters. -/
theorem fit_of_length_le {values : List Value} {signature : Signature}
    (h : signature.fixedParams.length ≤ values.length) :
    fit values signature = checkTypes 0 values signature.fixedParams >>= fun _ =>
      if signature.isVariadic then
        packGroup signature.fixedParams.length (values.drop signature.fixedParams.length) >>=
          fun strings => .ok (values.take signature.fixedParams.length ++ [.group strings])
      else if (values.drop signature.fixedParams.length).isEmpty then
        .ok (values.take signature.fixedParams.length)
      else .error (.tooMany (values.drop signature.fixedParams.length).length signature) := by
  rw [fit, if_neg (Nat.not_lt.2 h)]
  rfl

/-- Fitting succeeds on the arguments that fit, and binds them as they should be. -/
theorem fit_eq_ok_iff {values bound : List Value} {signature : Signature} :
    fit values signature = .ok bound ↔ Fits signature values bound := by
  constructor
  · intro h
    -- the checks are taken off in the order in which they are made
    by_cases hshort : values.length < signature.fixedParams.length
    · rw [fit, if_pos hshort] at h
      cases h
    have henough := Nat.not_lt.1 hshort
    rw [fit_of_length_le henough] at h
    obtain ⟨⟨⟩, hcheck, h⟩ := Except.bind_eq_ok_iff.1 h
    have htypes := (checkTypes_eq_ok_iff henough).1 hcheck
    split at h
    · next hvariadic =>
      obtain ⟨strings, hgroup, h⟩ := Except.bind_eq_ok_iff.1 h
      cases h
      have hfits := Fits.variadic hvariadic htypes (packGroup_eq_ok_iff.1 hgroup)
      rwa [List.take_append_drop] at hfits
    · next hfixed =>
      split at h
      · next hnone =>
        cases h
        have hall : values.take signature.fixedParams.length = values := by
          have hsplit := List.take_append_drop signature.fixedParams.length values
          rwa [List.isEmpty_iff.1 hnone, List.append_nil] at hsplit
        rw [hall] at htypes ⊢
        exact .fixed (by simpa using hfixed) htypes
      · cases h
  · intro fits
    cases fits with
    | fixed not_variadic types =>
      have hlength : signature.fixedParams.length = values.length := by
        rw [← types, List.length_map]
      have hcheck : checkTypes 0 values signature.fixedParams = .ok () := by
        rw [checkTypes_eq_ok_iff (Nat.le_of_eq hlength), hlength, List.take_length, types]
      rw [fit_of_length_le (Nat.le_of_eq hlength), hcheck, not_variadic, hlength]
      simp
    | @variadic front given strings is_variadic types group =>
      have hlength : signature.fixedParams.length = front.length := by
        rw [← types, List.length_map]
      have henough : signature.fixedParams.length ≤ (front ++ given).length := by
        rw [hlength, List.length_append]
        exact Nat.le_add_right _ _
      have hcheck : checkTypes 0 (front ++ given) signature.fixedParams = .ok () := by
        rw [checkTypes_eq_ok_iff henough, hlength, List.take_left, types]
      rw [fit_of_length_le henough, hcheck, is_variadic, hlength, List.take_left, List.drop_left,
        packGroup_eq_ok_iff.2 group]
      rfl

namespace Fits

variable {signature : Signature} {values bound : List Value}

/-- There is one value for every parameter, of its type. -/
theorem types (fits : Fits signature values bound) :
    bound.map Value.type = signature.params := by
  cases fits with
  | fixed not_variadic types => rw [types, Signature.fixedParams_of_not_isVariadic not_variadic]
  | variadic is_variadic types =>
    rw [List.map_append, types, Signature.params_eq_of_isVariadic is_variadic]
    rfl

/-- A string among the arguments is bound by itself or as part of the group. -/
theorem mem_of_string_mem {s : String} (fits : Fits signature values bound)
    (h : Value.string s ∈ values) :
    Value.string s ∈ bound ∨ ∃ strings, Value.group strings ∈ bound ∧ s ∈ strings := by
  cases fits with
  | fixed => exact Or.inl h
  | @variadic front given strings _ _ group =>
    rcases List.mem_append.1 h with hfront | hgiven
    · exact Or.inl (List.mem_append_left _ hfront)
    · refine Or.inr ⟨strings, List.mem_append_right _ List.mem_cons_self, ?_⟩
      cases group with
      | packed => cases List.mem_singleton.1 hgiven
      | loose first more =>
        obtain ⟨other, hother, hsame⟩ := List.mem_map.1 hgiven
        exact Value.string.inj hsame ▸ hother

end Fits

end Linkage
