import Linkage.Proofs.Fitting

/-!
# Arguments in normal form

A row of arguments is in normal form when it holds one value for each parameter, of its type. Fitting
brings arguments into normal form and leaves a row alone that is in it already
(`fit_eq_ok_self_iff`), so fitting twice is fitting once. `Signature.Accepts` says which arguments
can be fitted, and `Signature.Binds` what they become; `fit_normalizes` says that this is all there
is, and that a group may as well be spelled out in loose strings.

A group parameter that is not the last one is a fixed parameter like any other: it takes a group as
one value and gathers nothing (`fit_normalizes_nested`).
-/

namespace Linkage

/-! ## What can be fitted, and what it becomes -/

/-- The arguments that can be bound to a signature: values of the types of the fixed parameters, and
behind them what makes up a group if the signature ends with one, and nothing otherwise. -/
structure Signature.Accepts (signature : Signature) (values : List Value) : Prop where
  fixed : (values.take signature.fixedParams.length).map Value.type = signature.fixedParams
  nothing_more : signature.isVariadic = false → values.drop signature.fixedParams.length = []
  group_given : signature.isVariadic = true →
    ∃ strings, GivesGroup (values.drop signature.fixedParams.length) strings

/-- What becomes of arguments that are bound to a signature: one value for each parameter, the fixed
ones as they were, and behind them the group, packed if it was not. -/
structure Signature.Binds (signature : Signature) (values bound : List Value) : Prop where
  length_eq : bound.length = signature.arity
  types : bound.map Value.type = signature.params
  fixed_kept : bound.take signature.fixedParams.length = values.take signature.fixedParams.length
  group_packed : signature.isVariadic = true → ∃ strings,
    GivesGroup (values.drop signature.fixedParams.length) strings ∧
      bound.drop signature.fixedParams.length = [.group strings]

/-- Strings make up a group when there are any. -/
theorem GivesGroup.of_ne_nil {strings : List String} (hne : strings ≠ []) :
    GivesGroup (strings.map .string) strings := by
  cases strings with
  | nil => exact absurd rfl hne
  | cons first more => exact .loose first more

namespace Fits

variable {signature : Signature} {values bound : List Value}

/-- Arguments that fit are accepted. -/
theorem accepts (fits : Fits signature values bound) : signature.Accepts values := by
  cases fits with
  | fixed not_variadic types =>
    have hlength : signature.fixedParams.length = values.length := by
      rw [← types, List.length_map]
    refine ⟨?_, fun _ => ?_, fun is_variadic => ?_⟩
    · rw [hlength, List.take_length, types]
    · rw [hlength, List.drop_length]
    · rw [not_variadic] at is_variadic
      cases is_variadic
  | @variadic front given strings is_variadic types group =>
    have hlength : signature.fixedParams.length = front.length := by
      rw [← types, List.length_map]
    refine ⟨?_, fun not_variadic => ?_, fun _ => ?_⟩
    · rw [hlength, List.take_left, types]
    · rw [is_variadic] at not_variadic
      cases not_variadic
    · rw [hlength, List.drop_left]
      exact ⟨strings, group⟩

/-- What arguments that fit are bound to is what should become of them. -/
theorem binds (fits : Fits signature values bound) : signature.Binds values bound := by
  have htypes := fits.types
  have harity : bound.length = signature.arity := by
    rw [Signature.arity, ← htypes, List.length_map]
  cases fits with
  | fixed not_variadic types =>
    refine ⟨harity, htypes, rfl, fun is_variadic => ?_⟩
    rw [not_variadic] at is_variadic
    cases is_variadic
  | @variadic front given strings is_variadic types group =>
    have hlength : signature.fixedParams.length = front.length := by
      rw [← types, List.length_map]
    refine ⟨harity, htypes, ?_, fun _ => ⟨strings, ?_, ?_⟩⟩
    · rw [hlength, List.take_left, List.take_left]
    · rw [hlength, List.drop_left]
      exact group
    · rw [hlength, List.drop_left]

/-- Values in normal form fit as they are. -/
theorem of_types (htypes : values.map Value.type = signature.params) :
    Fits signature values values := by
  cases hvariadic : signature.isVariadic with
  | false => exact .fixed hvariadic (by rw [htypes, Signature.fixedParams_of_not_isVariadic hvariadic])
  | true =>
    -- the last value stands for the group, and only a group has its type
    rw [Signature.params_eq_of_isVariadic hvariadic] at htypes
    obtain ⟨front, rest, rfl, hfront, hrest⟩ := List.map_eq_append_iff.1 htypes
    obtain ⟨last, rfl, hlast⟩ := List.map_eq_singleton_iff.1 hrest
    cases last <;> cases hlast
    exact .variadic hvariadic hfront (.packed _)

end Fits

/-- Arguments that are accepted fit. -/
theorem Signature.Accepts.exists_fits {signature : Signature} {values : List Value}
    (accepts : signature.Accepts values) : ∃ bound, Fits signature values bound := by
  have hsplit := List.take_append_drop signature.fixedParams.length values
  cases hvariadic : signature.isVariadic with
  | false =>
    rw [accepts.nothing_more hvariadic, List.append_nil] at hsplit
    have htypes := accepts.fixed
    rw [hsplit] at htypes
    exact ⟨values, .fixed hvariadic htypes⟩
  | true =>
    obtain ⟨strings, group⟩ := accepts.group_given hvariadic
    have fits := Fits.variadic hvariadic accepts.fixed group
    rw [hsplit] at fits
    exact ⟨_, fits⟩

/-! ## Normal form -/

/-- Fitting leaves a row alone exactly when it is in normal form. -/
theorem fit_eq_ok_self_iff {values : List Value} {signature : Signature} :
    fit values signature = .ok values ↔ values.map Value.type = signature.params := by
  rw [fit_eq_ok_iff]
  exact ⟨Fits.types, Fits.of_types⟩

/-- The types of the fixed parameters are compared with the values in front only. -/
theorem checkTypes_append {slot : Nat} {front : List Value} {types : List ParamType}
    (h : types.length ≤ front.length) (rest : List Value) :
    checkTypes slot (front ++ rest) types = checkTypes slot front types := by
  induction front generalizing slot types with
  | nil =>
    obtain rfl : types = [] := List.length_eq_zero_iff.1 (Nat.le_zero.1 h)
    simp [checkTypes]
  | cons value front ih =>
    cases types with
    | nil => simp [checkTypes]
    | cons type types =>
      rw [List.cons_append, checkTypes, checkTypes, ih (Nat.le_of_succ_le_succ h)]

section Spelling

variable {signature : Signature} {front : List Value} {strings : List String}

/-- Behind the fixed parameters of a variadic signature, loose strings come to the same as the group
they make up, also where the fixed parameters are given wrong values. -/
theorem fit_loose_eq_packed (is_variadic : signature.isVariadic = true)
    (hlength : front.length = signature.fixedParams.length) (hne : strings ≠ []) :
    fit (front ++ strings.map .string) signature = fit (front ++ [.group strings]) signature := by
  have hfront : ∀ rest : List Value,
      fit (front ++ rest) signature = checkTypes 0 front signature.fixedParams >>= fun _ =>
        packGroup signature.fixedParams.length rest >>= fun packed =>
          .ok (front ++ [.group packed]) := by
    intro rest
    have henough : signature.fixedParams.length ≤ (front ++ rest).length := by
      rw [List.length_append, hlength]
      exact Nat.le_add_right _ _
    rw [fit_of_length_le henough, is_variadic, checkTypes_append (Nat.le_of_eq hlength.symm),
      ← hlength, List.take_left, List.drop_left]
    rfl
  have hloose : packGroup signature.fixedParams.length (strings.map .string) = .ok strings :=
    packGroup_eq_ok_iff.2 (.of_ne_nil hne)
  have hpacked : packGroup signature.fixedParams.length [.group strings] = .ok strings :=
    packGroup_eq_ok_iff.2 (.packed strings)
  rw [hfront, hfront, hloose, hpacked]

/-- Where a signature does not end with a group, nothing may follow the fixed parameters. -/
theorem fit_ne_ok_of_more {given bound : List Value} (not_variadic : signature.isVariadic = false)
    (hlength : front.length = signature.fixedParams.length) (hne : given ≠ []) :
    fit (front ++ given) signature ≠ .ok bound := by
  intro h
  have hnothing := (fit_eq_ok_iff.1 h).accepts.nothing_more not_variadic
  rw [← hlength, List.drop_left] at hnothing
  exact hne hnothing

/-- Loose strings and the group that they make up are bound alike, whatever the signature. -/
theorem fit_loose_eq_ok_iff {bound : List Value}
    (hlength : front.length = signature.fixedParams.length) (hne : strings ≠ []) :
    fit (front ++ strings.map .string) signature = .ok bound ↔
      fit (front ++ [.group strings]) signature = .ok bound := by
  cases hvariadic : signature.isVariadic with
  | true => rw [fit_loose_eq_packed hvariadic hlength hne]
  | false =>
    have hmap : strings.map Value.string ≠ [] := by simpa using hne
    have hloose : fit (front ++ strings.map .string) signature ≠ .ok bound :=
      fit_ne_ok_of_more hvariadic hlength hmap
    have hpacked : fit (front ++ [.group strings]) signature ≠ .ok bound :=
      fit_ne_ok_of_more hvariadic hlength (List.cons_ne_nil _ _)
    exact iff_of_false hloose hpacked

end Spelling

/-- Fitting succeeds on exactly the arguments that a signature accepts, and makes of them what it
should; fitting the outcome again changes nothing; a group behind the fixed parameters may be
spelled out in loose strings; and a failure to fit is a failure to bind. -/
theorem fit_normalizes (values : List Value) (signature : Signature) :
    ((∃ bound, fit values signature = .ok bound) ↔ signature.Accepts values) ∧
      (∀ bound, fit values signature = .ok bound →
        signature.Binds values bound ∧ fit bound signature = .ok bound) ∧
      (∀ front strings, front.length = signature.fixedParams.length → strings ≠ [] →
        (∀ bound, fit (front ++ strings.map .string) signature = .ok bound ↔
          fit (front ++ [.group strings]) signature = .ok bound) ∧
        (signature.isVariadic = true →
          fit (front ++ strings.map .string) signature =
            fit (front ++ [.group strings]) signature)) ∧
      ∀ error, (fit values signature).mapError Misfit.error = .error error →
        error.phase = .binding := by
  refine ⟨⟨?_, ?_⟩, ?_, ?_, ?_⟩
  · rintro ⟨bound, h⟩
    exact (fit_eq_ok_iff.1 h).accepts
  · intro accepts
    obtain ⟨bound, fits⟩ := accepts.exists_fits
    exact ⟨bound, fit_eq_ok_iff.2 fits⟩
  · intro bound h
    have fits := fit_eq_ok_iff.1 h
    exact ⟨fits.binds, fit_eq_ok_self_iff.2 fits.types⟩
  · intro front strings hlength hne
    exact ⟨fun bound => fit_loose_eq_ok_iff hlength hne,
      fun is_variadic => fit_loose_eq_packed is_variadic hlength hne⟩
  · intro error h
    cases hfit : fit values signature with
    | ok bound =>
      rw [hfit] at h
      cases h
    | error misfit =>
      rw [hfit] at h
      cases h
      rfl

/-! ## Groups in two places -/

namespace Nested

/-- A signature with a group in the first place as well as in the last. -/
def signature : Signature := ⟨[.stringGroup, .string, .stringGroup]⟩

/-- The values of the fixed parameters. -/
def front : List Value := [.group ["a", "b"], .string "c"]

/-- The strings of the group at the end. -/
def strings : List String := ["", "d"]

end Nested

/-- The group in front is kept, the loose strings behind it are packed, and packing them first makes
no difference. -/
theorem fit_normalizes_nested :
    fit (Nested.front ++ Nested.strings.map .string) Nested.signature =
        .ok (Nested.front ++ [.group Nested.strings]) ∧
      fit (Nested.front ++ [.group Nested.strings]) Nested.signature =
        .ok (Nested.front ++ [.group Nested.strings]) := by
  have hfit : fit (Nested.front ++ Nested.strings.map .string) Nested.signature =
      .ok (Nested.front ++ [.group Nested.strings]) := rfl
  obtain ⟨-, hbound, -, -⟩ :=
    fit_normalizes (Nested.front ++ Nested.strings.map .string) Nested.signature
  exact ⟨hfit, (hbound _ hfit).2⟩

end Linkage
