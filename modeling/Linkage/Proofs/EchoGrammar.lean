import Linkage.Proofs.EchoCodec

/-!
# The grammar of echoes

The texts that `Echo.parse` accepts, described without a reader. A value is spelled bare, as letters
none of which ends it, or between double quotes, mark by mark (`Spelling`). A `Wording` is an owner
without a colon and two rows of spellings; its text has all of them in their places, and the echo it
stands for forgets how the values were spelled.

The reader is followed in both directions. What it reads is spelled at the front of the text
(`exists_spelling_of_readValue`, and one lemma for each kind of row), and a spelled value is read in
front of everything that can follow it (`recovers_spelling`). No value can be spelled at one place in
two ways (`Spelling.eq_of_append_eq`), which carries over to rows and to whole texts
(`Wording.text_injective`). `parse_eq_some_iff_wording` puts this together.

An echo has many wordings: every value can be put between quotes, and any character in it can be
made literal. `Echo.render` chooses one of them.
-/

namespace Linkage.Echo

/-! ## Spellings -/

/-- A character between double quotes: as it stands, or literal behind a backslash. -/
inductive Mark where
  | plain (c : Char) (unmarked : c ≠ '"' ∧ c ≠ '\\')
  | literal (c : Char)

namespace Mark

/-- The character a mark stands for. -/
def char : Mark → Char
  | plain c _ => c
  | literal c => c

/-- The characters of a mark. -/
def chars : Mark → List Char
  | plain c _ => [c]
  | literal c => ['\\', c]

end Mark

/-- A value as it is spelled: bare, or between double quotes. -/
inductive Spelling where
  | bare (letters : List Char) (ne_nil : letters ≠ []) (unquoted : letters.head? ≠ some '"')
      (unended : ∀ c ∈ letters, c ≠ ' ' ∧ c ≠ '(' ∧ c ≠ ')')
  | quoted (marks : List Mark)

namespace Spelling

/-- The value a spelling stands for. -/
def value : Spelling → String
  | bare letters _ _ _ => String.ofList letters
  | quoted marks => String.ofList (marks.map Mark.char)

/-- The characters of a spelling. -/
def chars : Spelling → List Char
  | bare letters _ _ _ => letters
  | quoted marks => '"' :: (marks.flatMap Mark.chars ++ ['"'])

end Spelling

/-- An echo as it is worded: an owner without a colon and two rows of spellings. -/
structure Wording where
  owner : String
  no_colon : ':' ∉ owner.toList
  group : List Spelling
  fixed : List Spelling

namespace Wording

/-- The group as it is worded: every value behind a space. -/
def groupRow (group : List Spelling) : List Char := group.flatMap fun s => ' ' :: s.chars

/-- The fixed part as it is worded: a space between each two values. -/
def fixedRow (fixed : List Spelling) : List Char :=
  List.intercalate [' '] (fixed.map Spelling.chars)

/-- The text of a wording. -/
def text (wording : Wording) : String :=
  String.ofList (wording.owner.toList ++
    ':' :: (groupRow wording.group ++ '(' :: (fixedRow wording.fixed ++ [')'])))

/-- The echo a wording stands for. -/
def echo (wording : Wording) : Echo :=
  ⟨wording.owner, wording.group.map Spelling.value, wording.fixed.map Spelling.value⟩

theorem fixedRow_append_of_cons (first second : Spelling) (more : List Spelling)
    (rest : List Char) : fixedRow (first :: second :: more) ++ rest =
      first.chars ++ ' ' :: (fixedRow (second :: more) ++ rest) :=
  intercalate_append_of_cons Spelling.chars first second more rest

theorem fixedRow_singleton (s : Spelling) : fixedRow [s] = s.chars :=
  List.intercalate_singleton

end Wording

open Wording

variable {text rest rest' behind : List Char} {bound : Nat}

theorem endsBare_eq_false_iff {c : Char} :
    endsBare c = false ↔ c ≠ ' ' ∧ c ≠ '(' ∧ c ≠ ')' := by
  simp [endsBare, and_assoc]

/-! ## What is spelled is read -/

/-- Marks are read up to the closing quote. -/
theorem readQuoted_marks (marks : List Mark) (rest : List Char) :
    readQuoted (marks.flatMap Mark.chars ++ '"' :: rest) = some (marks.map Mark.char, rest) := by
  induction marks with
  | nil => rfl
  | cons mark marks ih =>
    rw [List.flatMap_cons, List.append_assoc]
    cases mark with
    | plain c unmarked => simp [Mark.chars, Mark.char, readQuoted, unmarked, ih]
    | literal c => simp [Mark.chars, Mark.char, readQuoted, ih]

/-- A spelled value is read in front of every character that ends bare values. -/
theorem recovers_spelling : Recovers Spelling.chars Spelling.value := by
  intro s rest c hc
  cases s with
  | bare letters ne_nil unquoted unended =>
    have hbare : ∀ d ∈ letters, endsBare d = false := fun d hd =>
      endsBare_eq_false_iff.2 (unended d hd)
    rw [Spelling.chars, Spelling.value, String.toList_ofList]
    exact readValue_bare ne_nil unquoted hbare rest hc
  | quoted marks =>
    have hread := readQuoted_marks marks (c :: rest)
    simpa [Spelling.chars, Spelling.value, readValue] using hread

/-! ## What is read is spelled -/

/-- What is read up to a closing quote is spelled in marks. -/
theorem exists_marks_of_readQuoted {value : List Char}
    (h : readQuoted text = some (value, rest)) :
    ∃ marks : List Mark, text = marks.flatMap Mark.chars ++ '"' :: rest ∧
      value = marks.map Mark.char := by
  fun_induction readQuoted text generalizing value with
  | case1 => cases h
  | case2 behind =>
    cases h
    exact ⟨[], rfl, rfl⟩
  | case3 c behind ih =>
    obtain ⟨⟨more, last⟩, hmore, hpair⟩ := Option.map_eq_some_iff.1 h
    cases hpair
    obtain ⟨marks, rfl, rfl⟩ := ih hmore
    exact ⟨.literal c :: marks, by simp [Mark.chars], rfl⟩
  | case4 => cases h
  | case5 c behind hquote hslash hlast ih =>
    obtain ⟨⟨more, last⟩, hmore, hpair⟩ := Option.map_eq_some_iff.1 h
    cases hpair
    obtain ⟨marks, rfl, rfl⟩ := ih hmore
    -- a backslash would have been taken with the character behind it
    have hplain : c ≠ '"' ∧ c ≠ '\\' := by
      refine ⟨hquote, ?_⟩
      rintro rfl
      cases marks with
      | nil => exact hslash '"' _ rfl rfl
      | cons mark marks => cases mark <;> exact hslash _ _ rfl rfl
    exact ⟨.plain c hplain :: marks, by simp [Mark.chars], rfl⟩

/-- What is read as a value is spelled at the front of the text. -/
theorem exists_spelling_of_readValue {value : List Char}
    (h : readValue text = some (value, rest)) :
    ∃ s : Spelling, text = s.chars ++ rest ∧ String.ofList value = s.value := by
  by_cases hquote : text.head? = some '"'
  · obtain ⟨inner, rfl⟩ := List.head?_eq_some_iff.1 hquote
    obtain ⟨marks, rfl, rfl⟩ := exists_marks_of_readQuoted h
    exact ⟨.quoted marks, by simp [Spelling.chars], rfl⟩
  · -- the letters read are those up to the first one that ends a bare value
    rw [readValue_of_head_ne hquote] at h
    split at h
    · cases h
    · next hne =>
      obtain ⟨rfl, rfl⟩ := Prod.mk.inj (Option.some.inj h)
      have happend := List.takeWhile_append_dropWhile (p := fun c => !endsBare c) (l := text)
      have hnonempty : text.takeWhile (fun c => !endsBare c) ≠ [] := by simpa using hne
      have hhead : (text.takeWhile fun c => !endsBare c).head? ≠ some '"' := by
        intro hhead
        obtain ⟨inner, hinner⟩ := List.head?_eq_some_iff.1 hhead
        rw [← happend, hinner] at hquote
        exact hquote rfl
      have hunended : ∀ c ∈ text.takeWhile (fun c => !endsBare c), c ≠ ' ' ∧ c ≠ '(' ∧ c ≠ ')' := by
        intro c hc
        have hall := List.all_eq_true.1 List.all_takeWhile c hc
        exact endsBare_eq_false_iff.1 (by simpa using hall)
      exact ⟨.bare _ hnonempty hhead hunended, happend.symm, rfl⟩

/-- What is read as a group is spelled value by value. -/
theorem exists_spellings_of_readGroup {values : List String}
    (h : readGroup bound text = some (values, rest)) :
    ∃ group : List Spelling, text = groupRow group ++ rest ∧ values = group.map Spelling.value := by
  fun_induction readGroup bound text generalizing values with
  | case1 bound behind ih =>
    simp only [Option.bind_eq_bind, Option.bind_eq_some_iff, Prod.exists] at h
    obtain ⟨value, left, hvalue, more, last, hmore, hpair⟩ := h
    cases hpair
    obtain ⟨s, rfl, hs⟩ := exists_spelling_of_readValue hvalue
    obtain ⟨group, rfl, rfl⟩ := ih left hmore
    refine ⟨s :: group, ?_, ?_⟩
    · simp [groupRow]
    · rw [hs, List.map_cons]
  | case2 bound behind hstop =>
    cases h
    exact ⟨[], rfl, rfl⟩

/-- What is read as the rest of a fixed part is spelled value by value, at least one. -/
theorem exists_spellings_of_readFixed {values : List String}
    (h : readFixed bound text = some (values, rest)) :
    ∃ fixed : List Spelling, text = fixedRow fixed ++ ')' :: rest ∧
      values = fixed.map Spelling.value := by
  -- a row with a value in front of it is never empty, which keeps the space between the two
  suffices hcons : ∃ first more, text = fixedRow (first :: more) ++ ')' :: rest ∧
      values = (first :: more).map Spelling.value by
    obtain ⟨first, more, htext, hvalues⟩ := hcons
    exact ⟨first :: more, htext, hvalues⟩
  induction bound generalizing text values with
  | zero => cases h
  | succ bound ih =>
    rw [readFixed] at h
    simp only [Option.bind_eq_bind, Option.bind_eq_some_iff, Prod.exists] at h
    obtain ⟨value, left, hvalue, h⟩ := h
    obtain ⟨s, rfl, hs⟩ := exists_spelling_of_readValue hvalue
    split at h
    · cases h
      exact ⟨s, [], by rw [fixedRow_singleton], by rw [hs]; rfl⟩
    · simp only [Option.bind_eq_some_iff, Prod.exists] at h
      obtain ⟨values', last, hmore, hpair⟩ := h
      cases hpair
      obtain ⟨second, more, rfl, rfl⟩ := ih hmore
      refine ⟨s, second :: more, (fixedRow_append_of_cons s second more _).symm, ?_⟩
      rw [hs]
      rfl
    · cases h

theorem exists_spellings_of_readParenthesized {values : List String}
    (h : readParenthesized text = some (values, rest)) :
    ∃ fixed : List Spelling, text = '(' :: (fixedRow fixed ++ ')' :: rest) ∧
      values = fixed.map Spelling.value := by
  unfold readParenthesized at h
  split at h
  · cases h
    exact ⟨[], rfl, rfl⟩
  · obtain ⟨fixed, rfl, hvalues⟩ := exists_spellings_of_readFixed h
    exact ⟨fixed, rfl, hvalues⟩
  · cases h

/-! ## No two readings -/

theorem Mark.eq_of_append_eq {marks marks' : List Mark}
    (h : marks.flatMap Mark.chars ++ '"' :: rest = marks'.flatMap Mark.chars ++ '"' :: rest') :
    marks = marks' := by
  -- the first character tells the end, a plain mark and a literal one apart
  induction marks generalizing marks' with
  | nil =>
    cases marks' with
    | nil => rfl
    | cons mark' marks' =>
      cases mark' with
      | plain c unmarked => exact absurd (List.cons.inj h).1.symm unmarked.1
      | literal c => exact absurd (List.cons.inj h).1 (by decide)
  | cons mark marks ih =>
    cases marks' with
    | nil =>
      cases mark with
      | plain c unmarked => exact absurd (List.cons.inj h).1 unmarked.1
      | literal c => exact absurd (List.cons.inj h).1 (by decide)
    | cons mark' marks' =>
      cases mark with
      | plain c unmarked =>
        cases mark' with
        | plain c' _ =>
          obtain ⟨rfl, htail⟩ := List.cons.inj h
          rw [ih htail]
        | literal c' => exact absurd (List.cons.inj h).1 unmarked.2
      | literal c =>
        cases mark' with
        | plain c' unmarked' => exact absurd (List.cons.inj h).1.symm unmarked'.2
        | literal c' =>
          obtain ⟨-, hbehind⟩ := List.cons.inj h
          obtain ⟨rfl, htail⟩ := List.cons.inj hbehind
          rw [ih htail]

/-- Where a value ends is read off the text, and so is how it is spelled. -/
theorem Spelling.eq_of_append_eq {s s' : Spelling} {c c' : Char} (hc : endsBare c = true)
    (hc' : endsBare c' = true) (h : s.chars ++ c :: rest = s'.chars ++ c' :: rest') :
    s = s' ∧ c :: rest = c' :: rest' := by
  -- reading tells where the value ends; the characters left of it tell the spelling
  have hread := recovers_spelling s rest c hc
  rw [h, recovers_spelling s' rest' c' hc'] at hread
  obtain ⟨hvalue, hbehind⟩ := Prod.mk.inj (Option.some.inj hread)
  rw [hbehind] at h
  have hchars : s.chars = s'.chars := List.append_cancel_right h
  refine ⟨?_, hbehind.symm⟩
  cases s with
  | bare letters ne_nil unquoted unended =>
    cases s' with
    | bare letters' _ _ _ =>
      obtain rfl : letters = letters' := hchars
      rfl
    | quoted marks' =>
      obtain rfl : letters = '"' :: _ := hchars
      exact absurd rfl unquoted
  | quoted marks =>
    cases s' with
    | bare letters' _ unquoted' _ =>
      obtain rfl : '"' :: _ = letters' := hchars
      exact absurd rfl unquoted'
    | quoted marks' => rw [Mark.eq_of_append_eq (List.cons.inj hchars).2]

/-- Two groups in front of a parenthesis are the same. -/
theorem Wording.groupRow_append_inj {group group' : List Spelling}
    (h : groupRow group ++ '(' :: rest = groupRow group' ++ '(' :: rest') :
    group = group' ∧ rest = rest' := by
  induction group generalizing group' with
  | nil =>
    cases group' with
    | nil => exact ⟨rfl, (List.cons.inj h).2⟩
    | cons s' group' => cases h
  | cons s group ih =>
    cases group' with
    | nil => cases h
    | cons s' group' =>
      obtain ⟨c, tail, htail, hc⟩ := group_append_eq_cons Spelling.chars group rest
      obtain ⟨c', tail', htail', hc'⟩ := group_append_eq_cons Spelling.chars group' rest'
      have hparts : s.chars ++ (groupRow group ++ '(' :: rest) =
          s'.chars ++ (groupRow group' ++ '(' :: rest') := by
        simpa [groupRow] using h
      rw [groupRow, htail, groupRow, htail'] at hparts
      obtain ⟨rfl, hmore⟩ := Spelling.eq_of_append_eq hc hc' hparts
      rw [← htail, ← htail'] at hmore
      obtain ⟨rfl, hrest⟩ := ih hmore
      exact ⟨rfl, hrest⟩

/-- A fixed part with values in it does not look empty. -/
theorem Wording.fixedRow_append_ne (s : Spelling) (more : List Spelling) :
    fixedRow (s :: more) ++ [')'] ≠ [')'] := by
  intro h
  have hread := recovers_spelling.readFixed s more [] (Nat.lt_succ_self _)
  rw [← fixedRow, h, readFixed_close] at hread
  cases hread

/-- Two fixed parts in front of the closing parenthesis are the same. -/
theorem Wording.fixedRow_append_inj {fixed fixed' : List Spelling}
    (h : fixedRow fixed ++ [')'] = fixedRow fixed' ++ [')']) : fixed = fixed' := by
  induction fixed generalizing fixed' with
  | nil =>
    cases fixed' with
    | nil => rfl
    | cons s' more' => exact absurd h.symm (fixedRow_append_ne s' more')
  | cons s more ih =>
    cases fixed' with
    | nil => exact absurd h (fixedRow_append_ne s more)
    | cons s' more' =>
      -- behind the first value stands a space or the end, the same in both
      cases more with
      | nil =>
        cases more' with
        | nil =>
          rw [fixedRow_singleton, fixedRow_singleton] at h
          rw [(Spelling.eq_of_append_eq (by decide) (by decide) h).1]
        | cons second' more' =>
          rw [fixedRow_singleton, fixedRow_append_of_cons] at h
          have hbehind := (Spelling.eq_of_append_eq (by decide) (by decide) h).2
          exact absurd (List.cons.inj hbehind).1 (by decide)
      | cons second more =>
        cases more' with
        | nil =>
          rw [fixedRow_append_of_cons, fixedRow_singleton] at h
          have hbehind := (Spelling.eq_of_append_eq (by decide) (by decide) h).2
          exact absurd (List.cons.inj hbehind).1 (by decide)
        | cons second' more' =>
          rw [fixedRow_append_of_cons, fixedRow_append_of_cons] at h
          obtain ⟨rfl, hbehind⟩ := Spelling.eq_of_append_eq (by decide) (by decide) h
          rw [ih (List.cons.inj hbehind).2]

/-- A text is worded in one way at most. -/
theorem Wording.text_injective : Function.Injective Wording.text := by
  rintro ⟨owner, no_colon, group, fixed⟩ ⟨owner', no_colon', group', fixed'⟩ h
  -- the owner is what stands before the first colon
  have hchars := String.ofList_injective h
  have hsplit := Text.splitFirst_eq_some_iff.2 ⟨hchars, no_colon'⟩
  rw [Text.splitFirst_eq_some_iff.2 ⟨rfl, no_colon⟩] at hsplit
  obtain ⟨howner, hrest⟩ := Prod.mk.inj (Option.some.inj hsplit)
  obtain rfl := String.toList_injective howner
  obtain ⟨rfl, hfixed⟩ := groupRow_append_inj hrest
  obtain rfl := fixedRow_append_inj hfixed
  rfl

/-! ## The grammar -/

/-- A text that is read as an echo is worded as such. -/
theorem exists_wording_of_parse {text : String} {echo : Echo} (h : parse text = some echo) :
    ∃ wording : Wording, wording.text = text ∧ wording.echo = echo := by
  obtain ⟨rest, behind, hsplit, hgroup, hfixed⟩ := parse_eq_some_iff.1 h
  obtain ⟨htext, hcolon⟩ := Text.splitFirst_eq_some_iff.1 hsplit
  obtain ⟨group, rfl, hstrings⟩ := exists_spellings_of_readGroup hgroup
  obtain ⟨fixed, rfl, hvalues⟩ := exists_spellings_of_readParenthesized hfixed
  refine ⟨⟨echo.owner, hcolon, group, fixed⟩, ?_, ?_⟩
  · rw [Wording.text, ← htext, String.ofList_toList]
  · rw [Wording.echo, ← hstrings, ← hvalues]

/-- The echoes that are read from a text are those that a wording of it stands for, and no text has
two wordings. -/
theorem parse_eq_some_iff_wording :
    (∀ (text : String) (echo : Echo), parse text = some echo ↔
      ∃ wording : Wording, wording.text = text ∧ wording.echo = echo) ∧
    Function.Injective Wording.text := by
  refine ⟨fun text echo => ⟨exists_wording_of_parse, ?_⟩, Wording.text_injective⟩
  rintro ⟨wording, rfl, rfl⟩
  exact recovers_spelling.parse wording.no_colon wording.group wording.fixed

/-- A wording with a quote inside a bare value, a literal quote and a backslash that stands bare. -/
def Wording.marked : Wording where
  owner := "a b"
  no_colon := by decide
  group := [.bare ['x', '"', 'y'] (by decide) (by decide) (by simp), .quoted [.literal '"']]
  fixed := [.quoted [], .bare ['\\'] (by decide) (by decide) (by simp)]

/-- The marked wording is read, a space in front of the closing parenthesis is never worded, and a
value between quotes is worded with them. -/
theorem parse_marked :
    parse "a b: x\"y \"\\\"\"(\"\" \\)" = some ⟨"a b", ["x\"y", "\""], ["", "\\"]⟩ ∧
      (∀ wording : Wording, wording.text ≠ "A:(1 )") ∧
      ∀ wording : Wording, wording.text = "A:(\"1\")" →
        wording.fixed = [.quoted [.plain '1' (by decide)]] := by
  refine ⟨?_, fun wording h => ?_, fun wording h => ?_⟩
  · have htext : Wording.marked.text = "a b: x\"y \"\\\"\"(\"\" \\)" := by decide
    exact (parse_eq_some_iff_wording.1 _ _).2 ⟨.marked, htext, rfl⟩
  · have hread := (parse_eq_some_iff_wording.1 "A:(1 )" _).2 ⟨wording, h, rfl⟩
    have hnone : parse "A:(1 )" = none := by decide
    rw [hnone] at hread
    cases hread
  · have htext : Wording.text ⟨"A", by decide, [], [.quoted [.plain '1' (by decide)]]⟩ =
        "A:(\"1\")" := by decide
    rw [parse_eq_some_iff_wording.2 (h.trans htext.symm)]

end Linkage.Echo
