import Linkage.Proofs.DecimalTexts
import Linkage.Proofs.Verdicts

/-!
# Texts of values

A value is read back from its text at its own type, unless it is a group or a NaN other than the
canonical one: the text of a group does not tell its strings apart, and all NaNs share one text.
`Value.Legible` rules out the latter, and `Value.Legible.readsBack` says that nothing else stands in
the way, for the least and the greatest integer of every width, for signed zeros, infinities and
subnormal numbers, and for every character and string.
-/

namespace Linkage

open Decimal

namespace Text

/-- An integer is read back from its decimal form. -/
theorem readInt_ofInt (n : Int) : readInt (ofInt n) = some n := by
  cases n with
  | ofNat n =>
    obtain ⟨c, rest, hdigits⟩ := List.exists_cons_of_ne_nil (digits_ne_nil n)
    have hdigit : isDigit c = true := isDigit_of_mem_digits (hdigits ▸ List.mem_cons_self)
    have hsign : takeSign (digits n) = (false, digits n) := by
      rw [hdigits]
      exact takeSign_of_isDigit hdigit
    simp [ofInt, readInt, hsign, readNat_digits]
  | negSucc n =>
    have hsign : takeSign ('-' :: digits (n + 1)) = (true, digits (n + 1)) := rfl
    simp [ofInt, readInt, hsign, readNat_digits, Int.negSucc_eq]

end Text

namespace Decimal.Format

/-- Whether bits are a number or the canonical NaN. -/
def Legible (f : Format) (bits : Nat) : Prop := f.infinity < f.magnitude bits → bits = f.quietNaN

instance (f : Format) (bits : Nat) : Decidable (f.Legible bits) :=
  inferInstanceAs (Decidable (_ → _))

/-- Numbers and the canonical NaN are read back from their texts. -/
theorem Legible.read_print {f : Format} {bits : Nat} (h : f.Legible bits)
    (hbits : bits < 2 * f.signBit) : f.read (f.print bits) = some bits := by
  by_cases hnan : f.infinity < f.magnitude bits
  · rw [read_print_of_infinity_lt hnan, h hnan]
  · exact Format.read_print hbits (Nat.not_lt.1 hnan)

end Decimal.Format

namespace Value

/-- Whether a value can be told from its text, as far as NaNs are concerned. -/
def Legible : Value → Prop
  | float bits => Format.single.Legible bits.toNat
  | double bits => Format.double.Legible bits.toNat
  | _ => True

instance : DecidablePred Legible
  | float bits => inferInstanceAs (Decidable (Format.single.Legible bits.toNat))
  | double bits => inferInstanceAs (Decidable (Format.double.Legible bits.toNat))
  | boolean _ | byte _ | short _ | char _ | int _ | long _ | string _ | group _ =>
    inferInstanceAs (Decidable True)

theorem toList_text (value : Value) : value.text.toList = value.chars := String.toList_ofList

/-- An integer between two bounds is read back from its decimal form. -/
theorem readWithin_ofInt {low high n : Int} (hlow : low ≤ n) (hhigh : n ≤ high) :
    readWithin low high (Text.ofInt n) = some n := by
  rw [readWithin, Text.readInt_ofInt]
  simp [hlow, hhigh]

/-- A value other than a group is read back from its text. -/
theorem Legible.readsBack {value : Value} (h : value.Legible) (htype : value.type ≠ .stringGroup) :
    value.ReadsBack := by
  rw [ReadsBack, toList_text]
  cases value with
  | boolean b => cases b <;> rfl
  | byte n =>
    have hlow : Int8.minValue.toInt ≤ n.toInt := n.le_toInt
    have hhigh : n.toInt ≤ Int8.maxValue.toInt := Int.le_of_lt_add_one n.toInt_lt
    rw [type, chars, read, readWithin_ofInt hlow hhigh, Option.map_some, Int8.ofInt_toInt]
  | short n =>
    have hlow : Int16.minValue.toInt ≤ n.toInt := n.le_toInt
    have hhigh : n.toInt ≤ Int16.maxValue.toInt := Int.le_of_lt_add_one n.toInt_lt
    rw [type, chars, read, readWithin_ofInt hlow hhigh, Option.map_some, Int16.ofInt_toInt]
  | char c => rfl
  | int n =>
    have hlow : Int32.minValue.toInt ≤ n.toInt := n.le_toInt
    have hhigh : n.toInt ≤ Int32.maxValue.toInt := Int.le_of_lt_add_one n.toInt_lt
    rw [type, chars, read, readWithin_ofInt hlow hhigh, Option.map_some, Int32.ofInt_toInt]
  | long n =>
    have hlow : Int64.minValue.toInt ≤ n.toInt := n.le_toInt
    have hhigh : n.toInt ≤ Int64.maxValue.toInt := Int.le_of_lt_add_one n.toInt_lt
    rw [type, chars, read, readWithin_ofInt hlow hhigh, Option.map_some, Int64.ofInt_toInt]
  | float bits =>
    rw [type, chars, read, Format.Legible.read_print h bits.toNat_lt, Option.map_some,
      UInt32.ofNat_toNat]
  | double bits =>
    rw [type, chars, read, Format.Legible.read_print h bits.toNat_lt, Option.map_some,
      UInt64.ofNat_toNat]
  | string s => rw [type, chars, read, String.ofList_toList]
  | group strings => exact absurd rfl htype

end Value

end Linkage
