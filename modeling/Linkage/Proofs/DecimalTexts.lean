import Linkage.Decimal.Reading
import Linkage.Decimal.Shortest

/-!
# Decimal texts

Printing a number and reading the text gives the number back, in every format. Two facts carry it.
The finest decimal grid of a format holds every magnitude exactly, and rounding a quotient that is a
magnitude gives that magnitude (`Format.nearest_of_units`), so the search of the printer for a grid
point that reads back never ends without one (`Format.ofDecimal_shortest`). And a positional text
stands for the decimal number it was made from (`Format.readPositional_text`).

`Format.read_print` puts the two together for numbers, infinities and signed zeros included;
`Format.read_print_of_infinity_lt` says that all NaNs share one text, which reads back as the
canonical one.
-/

namespace Linkage

namespace Text

/-! ## Rows of digits -/

theorem valueOf_append (row more : List Char) :
    valueOf (row ++ more) = more.foldl (fun value c => 10 * value + digitValue c) (valueOf row) :=
  List.foldl_append

/-- Zeros behind a row of digits multiply what it stands for. -/
theorem valueOf_append_zeros (row : List Char) (zeros : Nat) :
    valueOf (row ++ List.replicate zeros '0') = valueOf row * Nat.pow 10 zeros := by
  induction zeros with
  | zero =>
    rw [List.replicate_zero, List.append_nil]
    exact (Nat.mul_one _).symm
  | succ zeros ih =>
    rw [List.replicate_succ', ← List.append_assoc, valueOf_append, ih]
    show 10 * (valueOf row * Nat.pow 10 zeros) = valueOf row * (Nat.pow 10 zeros * 10)
    rw [Nat.mul_comm 10, Nat.mul_assoc]

/-- Zeros in front of a row of digits change nothing. -/
theorem valueOf_zeros_append (zeros : Nat) (row : List Char) :
    valueOf (List.replicate zeros '0' ++ row) = valueOf row := by
  have hzeros : valueOf (List.replicate zeros '0') = 0 := by
    rw [← List.nil_append (List.replicate zeros '0'), valueOf_append_zeros]
    exact Nat.zero_mul _
  rw [valueOf_append, hzeros]
  rfl

theorem isDigit_of_mem_zeros {zeros : Nat} {c : Char} (h : c ∈ List.replicate zeros '0') :
    isDigit c = true := by
  rw [(List.mem_replicate.1 h).2]
  decide

/-- Every digit is the digit character of a number below ten. -/
theorem exists_digitChar {c : Char} (h : isDigit c = true) : ∃ n : Fin 10, c = digitChar n := by
  have hbounds : '0' ≤ c ∧ c ≤ '9' := by simpa [isDigit] using h
  have hlow : 48 ≤ c.toNat := hbounds.1
  have hhigh : c.toNat ≤ 57 := hbounds.2
  refine ⟨⟨c.toNat - 48, by omega⟩, ?_⟩
  have hsum : 48 + (c.toNat - 48) = c.toNat := by omega
  rw [digitChar, hsum, Char.ofNat_toNat]

/-- No digit begins a sign or a word for a number, in lower case or in upper case. -/
theorem letters_of_isDigit {c : Char} (h : isDigit c = true) :
    c ≠ '-' ∧ c ≠ '+' ∧ c.toLower ≠ 'i' ∧ c.toLower ≠ 'n' := by
  obtain ⟨n, rfl⟩ := exists_digitChar h
  have hall : ∀ k : Fin 10, digitChar k ≠ '-' ∧ digitChar k ≠ '+' ∧
      (digitChar k).toLower ≠ 'i' ∧ (digitChar k).toLower ≠ 'n' := by decide
  exact hall n

end Text

namespace Decimal

open Text

/-! ## Rounding what is exact already -/

/-- A quotient without a rest is not rounded. -/
theorem roundHalfEven_mul {denominator : Nat} (quotient : Nat) (h : 0 < denominator) :
    roundHalfEven (quotient * denominator) denominator = quotient := by
  rw [roundHalfEven, Nat.mul_div_cancel quotient h, Nat.mul_mod_left]
  simp [h]

namespace Format

variable {f : Format} {magnitude : Nat}

/-- A magnitude is a significand on the grid of its binade, and the binade is the one that its size
tells. -/
theorem exists_significand (f : Format) (magnitude : Nat) :
    ∃ significand,
      f.units magnitude =
        significand * Nat.pow 2 ((f.units magnitude).log2 - f.fractionBits) ∧
      magnitude = ((f.units magnitude).log2 - f.fractionBits) * Nat.pow 2 f.fractionBits +
        significand := by
  have hpos : 0 < Nat.pow 2 f.fractionBits := Nat.pow_pos (by decide)
  have hsplit := Nat.div_add_mod magnitude (Nat.pow 2 f.fractionBits)
  have hfraction := Nat.mod_lt magnitude hpos
  rw [units]
  generalize magnitude / Nat.pow 2 f.fractionBits = exponent at hsplit ⊢
  generalize magnitude % Nat.pow 2 f.fractionBits = fraction at hsplit hfraction ⊢
  cases exponent with
  | zero =>
    -- a subnormal magnitude is its own fraction
    have hbinade : fraction.log2 - f.fractionBits = 0 := by
      by_cases hzero : fraction = 0
      · rw [hzero, Nat.log2_zero, Nat.zero_sub]
      · have hlog := (Nat.log2_lt hzero).2 hfraction
        omega
    refine ⟨fraction, ?_, ?_⟩
    · rw [if_pos rfl, hbinade]
      exact (Nat.mul_one fraction).symm
    · rw [if_pos rfl, hbinade, ← hsplit]
      simp
  | succ binade =>
    have hlog : ((Nat.pow 2 f.fractionBits + fraction) * Nat.pow 2 binade).log2 =
        f.fractionBits + binade := by
      have hgrid : 0 < Nat.pow 2 binade := Nat.pow_pos (by decide)
      have hunits : (Nat.pow 2 f.fractionBits + fraction) * Nat.pow 2 binade ≠ 0 :=
        Nat.ne_of_gt (Nat.mul_pos (Nat.add_pos_left hpos fraction) hgrid)
      have hdouble : Nat.pow 2 f.fractionBits + fraction < Nat.pow 2 f.fractionBits * 2 := by omega
      refine (Nat.log2_eq_iff hunits).2 ⟨?_, ?_⟩
      · rw [Nat.pow_add]
        exact Nat.mul_le_mul_right _ (Nat.le_add_right _ fraction)
      · rw [Nat.add_right_comm, Nat.pow_add]
        exact Nat.mul_lt_mul_of_pos_right hdouble hgrid
    refine ⟨Nat.pow 2 f.fractionBits + fraction, ?_, ?_⟩
    · rw [if_neg (Nat.succ_ne_zero binade), Nat.add_sub_cancel, hlog, Nat.add_sub_cancel_left]
    · rw [if_neg (Nat.succ_ne_zero binade), Nat.add_sub_cancel, hlog, Nat.add_sub_cancel_left,
        ← hsplit, Nat.mul_succ, Nat.mul_comm binade, Nat.add_assoc]

/-- A quotient that is a magnitude, as a multiple of the smallest positive number, is rounded to
that magnitude. -/
theorem nearest_of_units {numerator denominator : Nat} (hpos : 0 < denominator)
    (hunits : numerator * Nat.pow 2 f.scale = f.units magnitude * denominator)
    (hfinite : magnitude ≤ f.infinity) : f.nearest numerator denominator = magnitude := by
  obtain ⟨significand, hgrid, hsum⟩ := exists_significand f magnitude
  generalize hbinade : (f.units magnitude).log2 - f.fractionBits = binade at hgrid hsum
  have hstep : 0 < denominator * Nat.pow 2 binade :=
    Nat.mul_pos hpos (Nat.pow_pos (by decide))
  have hscaled : f.units magnitude * denominator =
      significand * (denominator * Nat.pow 2 binade) := by
    rw [hgrid, Nat.mul_assoc, Nat.mul_comm denominator]
  have hquotient : f.units magnitude * denominator / denominator = f.units magnitude :=
    Nat.mul_div_cancel _ hpos
  rw [nearest, hunits, hquotient, hbinade, hscaled, roundHalfEven_mul _ hstep, ← hsum]
  exact Nat.min_eq_right hfinite

/-! ## The search of the printer -/

/-- A negative power of ten divides, and so does the power zero. -/
theorem ofDecimal_neg (f : Format) (coefficient places : Nat) :
    f.ofDecimal coefficient (-(places : Int)) = f.nearest coefficient (Nat.pow 10 places) := by
  cases places with
  | zero =>
    show f.nearest (coefficient * 1) 1 = f.nearest coefficient 1
    rw [Nat.mul_one]
  | succ places => rfl

/-- A magnitude is a point of the finest grid. -/
theorem ofDecimal_tenfold (h : magnitude ≤ f.infinity) :
    f.ofDecimal (f.tenfold magnitude) (-(f.scale : Int)) = magnitude := by
  rw [ofDecimal_neg]
  refine nearest_of_units (Nat.pow_pos (by decide)) ?_ h
  have hten : Nat.pow 5 f.scale * Nat.pow 2 f.scale = Nat.pow 10 f.scale :=
    (Nat.mul_pow 5 2 f.scale).symm
  rw [tenfold, Nat.mul_assoc, hten]

/-- A grid point that was found reads back. -/
theorem ofDecimal_of_gridPoint? {place : Nat} {number : Number}
    (h : f.gridPoint? magnitude place = some number) :
    f.ofDecimal number.coefficient number.exponent = magnitude := by
  obtain ⟨coefficient, hfound, rfl⟩ := Option.map_eq_some_iff.1 h
  simpa using List.find?_some hfound

/-- From whatever grid the search sets out, what it ends with reads back. -/
theorem ofDecimal_coarsest (h : magnitude ≤ f.infinity) (place : Nat) :
    f.ofDecimal (f.coarsest magnitude place).coefficient (f.coarsest magnitude place).exponent =
      magnitude := by
  induction place with
  | zero => exact ofDecimal_tenfold h
  | succ place ih =>
    rw [coarsest]
    cases hpoint : f.gridPoint? magnitude (place + 1) with
    | none => exact ih
    | some number => exact ofDecimal_of_gridPoint? hpoint

/-- The shortest decimal number of a magnitude reads back to it. -/
theorem ofDecimal_shortest (h : magnitude ≤ f.infinity) :
    f.ofDecimal (f.shortest magnitude).coefficient (f.shortest magnitude).exponent = magnitude :=
  ofDecimal_coarsest h _

/-! ## Positional texts -/

/-- Zeros behind the digits stand for a power of ten. -/
theorem ofDecimal_zeros (f : Format) (coefficient zeros : Nat) :
    f.ofDecimal (coefficient * Nat.pow 10 zeros) 0 = f.ofDecimal coefficient (zeros : Int) := by
  show f.nearest (coefficient * Nat.pow 10 zeros * 1) 1 = _
  rw [Nat.mul_one]
  rfl

/-- A number that is written without an exponent has no exponent that could be out of bounds. -/
theorem clamp_zero (length : Nat) : clamp (exponentBound length) 0 = 0 := by
  rw [clamp, exponentBound]
  omega

/-- A row of digits is taken whole, up to a character that is none. -/
theorem takeWhile_isDigit {row : List Char} (hdigits : ∀ c ∈ row, isDigit c = true) :
    row.takeWhile isDigit = row ∧ row.dropWhile isDigit = [] := by
  have htake : (row ++ []).takeWhile isDigit = row ++ [].takeWhile isDigit :=
    List.takeWhile_append_of_pos hdigits
  have hdrop : (row ++ []).dropWhile isDigit = [].dropWhile isDigit :=
    List.dropWhile_append_of_pos hdigits
  rw [List.append_nil] at htake hdrop
  exact ⟨htake.trans (List.append_nil row), hdrop⟩

/-- Digits alone are read as an integer. -/
theorem readPositional_of_digits {row : List Char} (hne : row ≠ [])
    (hdigits : ∀ c ∈ row, isDigit c = true) :
    f.readPositional row = some (f.ofDecimal (valueOf row) 0) := by
  obtain ⟨htake, hdrop⟩ := takeWhile_isDigit hdigits
  rw [readPositional, htake, hdrop]
  simp [hne, readExponent, clamp_zero]

/-- Digits with a point among them are read as a fraction. -/
theorem readPositional_of_point {whole fraction : List Char} (hne : whole ≠ [])
    (hwhole : ∀ c ∈ whole, isDigit c = true) (hfraction : ∀ c ∈ fraction, isDigit c = true) :
    f.readPositional (whole ++ '.' :: fraction) =
      some (f.ofDecimal (valueOf (whole ++ fraction)) (-(fraction.length : Int))) := by
  have hpoint : isDigit '.' = false := by decide
  have htake : (whole ++ '.' :: fraction).takeWhile isDigit = whole := by
    rw [List.takeWhile_append_of_pos hwhole]
    simp [hpoint]
  have hdrop : (whole ++ '.' :: fraction).dropWhile isDigit = '.' :: fraction := by
    rw [List.dropWhile_append_of_pos hwhole]
    simp [hpoint]
  obtain ⟨htail, hrest⟩ := takeWhile_isDigit hfraction
  rw [readPositional, htake, hdrop]
  simp [hne, htail, hrest, readExponent, clamp_zero]

end Format

/-- Placing a point splits the digits in front of the last `places` of them, with zeros in front
where there are too few; what the row stands for stays. -/
theorem exists_placePoint {row : List Char} (hdigits : ∀ c ∈ row, isDigit c = true) (places : Nat) :
    ∃ whole fraction, placePoint row places = whole ++ '.' :: fraction ∧ whole ≠ [] ∧
      (∀ c ∈ whole ++ fraction, isDigit c = true) ∧ valueOf (whole ++ fraction) = valueOf row ∧
      fraction.length = places := by
  rw [placePoint]
  have hlength : places < (List.replicate (places + 1 - row.length) '0' ++ row).length := by
    rw [List.length_append, List.length_replicate]
    omega
  have hpadded : ∀ c ∈ List.replicate (places + 1 - row.length) '0' ++ row, isDigit c = true := by
    intro c hc
    rcases List.mem_append.1 hc with hzero | hrow
    · exact isDigit_of_mem_zeros hzero
    · exact hdigits c hrow
  have hvalue := valueOf_zeros_append (places + 1 - row.length) row
  generalize List.replicate (places + 1 - row.length) '0' ++ row = padded
    at hlength hpadded hvalue ⊢
  refine ⟨padded.take (padded.length - places), padded.drop (padded.length - places), rfl, ?_, ?_,
    ?_, ?_⟩
  · intro hnil
    have := congrArg List.length hnil
    rw [List.length_take, List.length_nil] at this
    omega
  · rw [List.take_append_drop]
    exact hpadded
  · rw [List.take_append_drop]
    exact hvalue
  · rw [List.length_drop]
    omega

/-- The text of a decimal number begins with a digit and is read as that number. -/
theorem Number.text_eq_cons (number : Number) :
    ∃ c rest, number.text = c :: rest ∧ isDigit c = true ∧
      ∀ f : Format, f.readPositional (c :: rest) =
        some (f.ofDecimal number.coefficient number.exponent) := by
  have hdigits : ∀ c ∈ digits number.coefficient, isDigit c = true := fun _ =>
    isDigit_of_mem_digits
  obtain ⟨coefficient, exponent⟩ := number
  cases exponent with
  | ofNat zeros =>
    have hrow : ∀ c ∈ digits coefficient ++ List.replicate zeros '0', isDigit c = true := by
      intro c hc
      rcases List.mem_append.1 hc with hc | hc
      · exact hdigits c hc
      · exact isDigit_of_mem_zeros hc
    obtain ⟨c, rest, htext⟩ := List.exists_cons_of_ne_nil
      (List.append_ne_nil_of_left_ne_nil (digits_ne_nil coefficient) (List.replicate zeros '0'))
    refine ⟨c, rest, htext, hrow c (htext ▸ List.mem_cons_self), fun f => ?_⟩
    have hne : digits coefficient ++ List.replicate zeros '0' ≠ [] :=
      htext ▸ List.cons_ne_nil c rest
    rw [← htext, Format.readPositional_of_digits hne hrow, valueOf_append_zeros, valueOf_digits,
      Format.ofDecimal_zeros]
    rfl
  | negSucc places =>
    obtain ⟨whole, fraction, htext, hne, hrow, hvalue, hlength⟩ :=
      exists_placePoint hdigits (places + 1)
    obtain ⟨c, rest, rfl⟩ := List.exists_cons_of_ne_nil hne
    refine ⟨c, rest ++ '.' :: fraction, htext, hrow c (by simp), fun f => ?_⟩
    have hread := f.readPositional_of_point hne (fun c hc => hrow c (List.mem_append_left _ hc))
      (fun c hc => hrow c (List.mem_append_right _ hc))
    rw [hvalue, hlength, valueOf_digits] at hread
    exact hread

/-! ## Reading -/

/-- A text that begins with a digit has no sign. -/
theorem takeSign_of_isDigit {c : Char} {text : List Char} (h : isDigit c = true) :
    takeSign (c :: text) = (false, c :: text) := by
  obtain ⟨hminus, hplus, -⟩ := letters_of_isDigit h
  unfold takeSign
  split
  · next heq => exact absurd (List.cons.inj heq).1 hminus
  · next heq => exact absurd (List.cons.inj heq).1 hplus
  · rfl

namespace Format

variable {f : Format} {magnitude bits : Nat}

/-- A text that begins with a digit is no word for a number. -/
theorem readMagnitude_of_isDigit {c : Char} {text : List Char} (h : isDigit c = true) :
    f.readMagnitude (c :: text) = f.readPositional (c :: text) := by
  obtain ⟨-, -, hi, hn⟩ := letters_of_isDigit h
  simp [readMagnitude, hi, hn]

/-- A magnitude is read back from its text, which has no sign in front. -/
theorem read_magnitudeText (h : magnitude ≤ f.infinity) :
    takeSign (f.magnitudeText magnitude) = (false, f.magnitudeText magnitude) ∧
      f.readMagnitude (f.magnitudeText magnitude) = some magnitude := by
  have hnumber : ∀ number : Number,
      f.ofDecimal number.coefficient number.exponent = magnitude →
      takeSign number.text = (false, number.text) ∧
        f.readMagnitude number.text = some magnitude := by
    intro number hreads
    obtain ⟨c, rest, htext, hc, hread⟩ := number.text_eq_cons
    rw [htext, takeSign_of_isDigit hc, readMagnitude_of_isDigit hc, hread, hreads]
    exact ⟨rfl, rfl⟩
  rw [magnitudeText]
  split
  · next hzero =>
    have htext : (⟨0, 0⟩ : Number).text = ['0'] := by
      show digits 0 ++ [] = ['0']
      rw [digits]
      rfl
    have hunits : 0 * Nat.pow 2 f.scale = f.units magnitude * 1 := by
      rw [hzero, units]
      simp
    rw [← htext]
    exact hnumber ⟨0, 0⟩ (nearest_of_units (by decide) hunits h)
  · split
    · next hinfinite =>
      rw [hinfinite]
      exact ⟨rfl, rfl⟩
    · exact hnumber _ (ofDecimal_shortest h)

/-- A number that is not NaN is read back from its text, with its sign. -/
theorem read_print (hbits : bits < 2 * f.signBit) (hnumber : f.magnitude bits ≤ f.infinity) :
    f.read (f.print bits) = some bits := by
  obtain ⟨hsign, hread⟩ := read_magnitudeText hnumber
  have hsplit : f.signBit * (bits / f.signBit) + f.magnitude bits = bits :=
    Nat.div_add_mod bits f.signBit
  have hquotient : bits / f.signBit < 2 := Nat.div_lt_of_lt_mul (by rwa [Nat.mul_comm] at hbits)
  have hsignBit : f.isNegative bits = decide (bits / f.signBit = 1) := by
    rw [isNegative, Nat.mod_eq_of_lt hquotient]
  rw [print, if_neg (Nat.not_lt.2 hnumber)]
  split
  · next hnegative =>
    have hone : bits / f.signBit = 1 := by simpa [hsignBit] using hnegative
    rw [hone, Nat.mul_one] at hsplit
    show (f.readMagnitude (f.magnitudeText (f.magnitude bits))).map
      (fun magnitude => f.signBit + magnitude) = some bits
    rw [hread, Option.map_some, hsplit]
  · next hpositive =>
    have hzero : bits / f.signBit = 0 := by
      have hne : bits / f.signBit ≠ 1 := by simpa [hsignBit] using hpositive
      exact Nat.lt_one_iff.1 (Nat.lt_of_le_of_ne (Nat.le_of_lt_succ hquotient) hne)
    rw [hzero, Nat.mul_zero, Nat.zero_add] at hsplit
    rw [read, hsign]
    show (f.readMagnitude (f.magnitudeText (f.magnitude bits))).map (fun magnitude => magnitude) =
      some bits
    rw [hread, Option.map_some, hsplit]

/-- Every NaN is printed as the same word, which is read as the canonical NaN. -/
theorem read_print_of_infinity_lt (h : f.infinity < f.magnitude bits) :
    f.read (f.print bits) = some f.quietNaN := by
  rw [print, if_pos h]
  rfl

end Format

end Decimal

end Linkage
