import Linkage.Proofs.Fitting
import Linkage.Proofs.ValueTexts

/-!
# Verdicts on faithful bodies

A body that transfers answers with the echo of what it was bound to. Whatever the signature, as long
as a string group stands in its last place only, the verdict on such an answer finds nothing to
blame (`Verdict.ofInvocation_of_transfer`): fitting gives every parameter a value of its type
(`Fits.types`), every value but a group is read back from its text (`Value.Legible.readsBack`), and
the group is the only one (`Echo.eq_group_of_mem`). The sensitive value is found wherever it was
put, in a fixed slot or among the loose strings of a group.
-/

namespace Linkage

namespace Echo

variable {values : List Value}

/-- A string that was bound, by itself or as part of a group, is one of the texts of the echo. -/
theorem mem_of_bound {s tag : String}
    (h : Value.string s ∈ values ∨ ∃ strings, Value.group strings ∈ values ∧ s ∈ strings) :
    s ∈ (ofValues tag values).group ∨ s ∈ (ofValues tag values).fixed := by
  rcases h with hstring | ⟨strings, hgroup, hmem⟩
  · refine Or.inr (List.mem_flatMap.2 ⟨_, hstring, ?_⟩)
    simp [fixedOf, Value.text, Value.chars]
  · exact Or.inl (List.mem_flatMap.2 ⟨_, hgroup, hmem⟩)

end Echo

namespace Verdict

/-- A body that transfers is never blamed for the arguments it was called with. The verdict names
its tag and no slot, whatever the arguments are, as long as they fit and can be told from their
texts; and when the sensitive value was put among them and is not empty, it is found in the answer,
so that the check for the tag succeeds. -/
theorem ofInvocation_of_transfer {signature : Signature} {values bound : List Value}
    {sensitive tag : String} (hlast : ParamType.stringGroup ∉ signature.params.dropLast)
    (hfit : fit (withSensitive values sensitive) signature = .ok bound)
    (hlegible : ∀ value ∈ bound, value.Legible) (hcolon : ':' ∉ tag.toList) :
    ∃ result, (Body.transfer tag).run bound = .ok result ∧
      let verdict := ofInvocation ⟨result, withSensitive values sensitive, bound, sensitive⟩ signature
      verdict.owner = some tag ∧ verdict.mismatched = [] ∧
        (sensitive ≠ "" → sensitiveSlot < values.length →
          verdict.taintReached = true ∧ verdict.check tag = .ok ()) := by
  have fits := fit_eq_ok_iff.1 hfit
  refine ⟨(Echo.ofValues tag bound).render, rfl, ?_⟩
  have hverdict : ofInvocation ⟨(Echo.ofValues tag bound).render, withSensitive values sensitive,
      bound, sensitive⟩ signature =
        ⟨some tag, [], carries (Echo.ofValues tag bound).render sensitive⟩ := by
    rw [ofInvocation_of_readsBack rfl hcolon fits.types hlast
      fun value hvalue htype => (hlegible value hvalue).readsBack htype]
    simp
  dsimp only
  rw [hverdict]
  refine ⟨rfl, rfl, fun hne hslot => ?_⟩
  have hsent : Value.string sensitive ∈ withSensitive values sensitive := List.mem_set hslot _
  have hcarries : carries (Echo.ofValues tag bound).render sensitive = true := by
    rw [carries_render (Echo.mem_of_bound (fits.mem_of_string_mem hsent))]
    simpa using hne
  exact ⟨hcarries, check_eq_ok_iff.2 ⟨rfl, rfl, hcarries⟩⟩

end Verdict

/-! ## A call with awkward values -/

namespace Awkward

/-- A signature whose fixed parameters end before the sensitive slot. -/
def signature : Signature := ⟨[.boolean, .float, .double, .char, .long, .stringGroup]⟩

/-- A negative zero, the canonical NaN, a character that needs quotes, the least integer and five
loose strings, the fourth of them in the sensitive slot. -/
def values : List Value :=
  [.boolean false, .float 0x80000000, .double 0x7ff8000000000000, .char '(', .long Int64.minValue,
   .string "", .string "b c", .string ":", .string "", .string "\\"]

/-- A sensitive value that looks like an echo. -/
def sensitive : String := "A: \"x\"(1)"

/-- What the arguments are bound to. -/
def bound : List Value := values.take 5 ++ [.group ["", "b c", ":", sensitive, "\\"]]

end Awkward

/-- The sensitive value is found among the loose strings, and nothing is blamed. -/
theorem Verdict.ofInvocation_of_transfer_awkward :
    ∃ result, (Body.transfer "A").run Awkward.bound = .ok result ∧
      (ofInvocation ⟨result, withSensitive Awkward.values Awkward.sensitive, Awkward.bound,
        Awkward.sensitive⟩ Awkward.signature).check "A" = .ok () := by
  have hlast : ParamType.stringGroup ∉ Awkward.signature.params.dropLast := by decide
  have hfit : fit (withSensitive Awkward.values Awkward.sensitive) Awkward.signature =
    .ok Awkward.bound := rfl
  have hlegible : ∀ value ∈ Awkward.bound, value.Legible := by decide
  have hcolon : ':' ∉ "A".toList := by decide
  obtain ⟨result, hrun, -, -, hfound⟩ := ofInvocation_of_transfer hlast hfit hlegible hcolon
  exact ⟨result, hrun, (hfound (by decide) (by decide)).2⟩

end Linkage
