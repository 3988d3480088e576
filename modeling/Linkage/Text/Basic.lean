/-!
# Searching text

Splitting a text at the first or the last place of a separator, and testing whether one text
occurs in another. Texts are character lists here; `occursIn_iff` ties the test to the infix
relation of lists, and `splitFirst_eq_some_iff` says that the part before the split is free of the
separator.

The blank characters are those with the Unicode property `White_Space`, given as a table of code
point ranges. The table is wider than the ASCII blanks: `isBlank_of_isWhitespace` says that every
character core counts as white space is in it.
-/

namespace Linkage.Text

/-- The text before the first separator and the text after it, if there is one. -/
def splitFirst (separator : Char) (text : List Char) : Option (List Char × List Char) :=
  match text with
  | [] => none
  | c :: rest =>
    if c = separator then some ([], rest)
    else (splitFirst separator rest).map fun parts => (c :: parts.1, parts.2)

/-- The text before the last separator and the text after it, if there is one. -/
def splitLast (separator : Char) (text : List Char) : Option (List Char × List Char) :=
  (splitFirst separator text.reverse).map fun parts => (parts.2.reverse, parts.1.reverse)

/-- Whether `needle` occurs in a text as one contiguous piece. The empty text occurs everywhere. -/
def occursIn (needle : List Char) : List Char → Bool
  | [] => needle.isEmpty
  | c :: rest => needle.isPrefixOf (c :: rest) || occursIn needle rest

/-- A split removes exactly one separator, the first. -/
theorem splitFirst_eq_some_iff {separator : Char} {text before after : List Char} :
    splitFirst separator text = some (before, after) ↔
      text = before ++ separator :: after ∧ separator ∉ before := by
  induction text generalizing before with
  | nil => simp [splitFirst]
  | cons c rest ih =>
    by_cases h : c = separator
    · subst h
      cases before <;> simp [splitFirst, eq_comm]
      intro h _; exact fun hne => absurd h hne
    · cases before with
      | nil => simp [splitFirst, h]
      | cons b before =>
        simp only [splitFirst, h, if_false, Option.map_eq_some_iff, Prod.mk.injEq, Prod.exists,
          List.cons_append, List.cons.injEq, List.mem_cons, not_or]
        constructor
        · rintro ⟨x, y, hxy, ⟨rfl, rfl⟩, rfl⟩
          exact ⟨⟨rfl, (ih.1 hxy).1⟩, Ne.symm h, (ih.1 hxy).2⟩
        · rintro ⟨⟨rfl, hrest⟩, _, hb⟩
          exact ⟨before, after, ih.2 ⟨hrest, hb⟩, ⟨rfl, rfl⟩, rfl⟩

/-- Nothing is split exactly when the separator is absent. -/
theorem splitFirst_eq_none_iff {separator : Char} {text : List Char} :
    splitFirst separator text = none ↔ separator ∉ text := by
  induction text with
  | nil => simp [splitFirst]
  | cons c rest ih =>
    by_cases h : c = separator
    · simp [splitFirst, h]
    · simp [splitFirst, h, ih, Ne.symm h]

/-- The occurrence test decides the infix relation. -/
theorem occursIn_iff {needle text : List Char} : occursIn needle text = true ↔ needle <:+: text := by
  induction text with
  | nil => simp [occursIn]
  | cons c rest ih => simp [occursIn, ih, List.infix_cons_iff]

/-! ## Blank characters -/

/-- The code point ranges with the property `White_Space`, both ends included. -/
def blankRanges : List (Nat × Nat) :=
  [(0x0009, 0x000D), (0x0020, 0x0020), (0x0085, 0x0085), (0x00A0, 0x00A0), (0x1680, 0x1680),
   (0x2000, 0x200A), (0x2028, 0x2029), (0x202F, 0x202F), (0x205F, 0x205F), (0x3000, 0x3000)]

/-- Whether a character has the property `White_Space`. -/
def isBlank (c : Char) : Bool :=
  blankRanges.any fun range => range.1 ≤ c.toNat && c.toNat ≤ range.2

/-- Core's ASCII white space is blank. -/
theorem isBlank_of_isWhitespace {c : Char} (h : c.isWhitespace = true) : isBlank c = true := by
  simp only [Char.isWhitespace, Bool.or_eq_true, decide_eq_true_eq] at h
  rcases h with ((rfl | rfl) | rfl) | rfl <;> decide

end Linkage.Text
