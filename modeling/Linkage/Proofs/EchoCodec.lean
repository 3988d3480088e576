import Linkage.Call.Invoke

/-!
# The echo codec

`Echo.render` decides by blanks and four other characters whether a value is quoted, `Echo.parse`
ends a bare value at a space or a parenthesis only. The two classes agree where it matters: a value
that is written bare holds no character that ends a bare value and does not begin with a quote
(`readValue_quote`). Reading therefore undoes writing, value by value in front of any continuation
(`Recovers`), and an echo comes back whole when its owner has no colon (`parse_render`). A colon in
the owner is where the reader splits, so such an owner never comes back (`colon_notMem_owner`).

`parse_render_iff` puts both halves together for the echo of a list of values. The last section
looks at owners that hold a colon and no quote: whatever they imitate, the group that is read back
is longer than the one that was written (`length_group_lt_of_colon_mem`).
-/

namespace Linkage.Echo

/-! ## Single values -/

/-- Reading undoes escaping, up to the closing quote. -/
theorem readQuoted_escape (text rest : List Char) :
    readQuoted (text.flatMap escape ++ '"' :: rest) = some (text, rest) := by
  -- only a quote and a backslash are written as two characters
  induction text with
  | nil => rfl
  | cons c text ih =>
    rw [List.flatMap_cons, List.append_assoc]
    by_cases hquote : c = '"'
    · subst hquote
      simp [escape, readQuoted, ih]
    · by_cases hslash : c = '\\'
      · subst hslash
        simp [escape, readQuoted, ih]
      · simp [escape, hquote, hslash, readQuoted, ih]

/-- A text that does not begin with a quote is read as a bare value. -/
theorem readValue_of_head_ne {text : List Char} (h : text.head? ≠ some '"') :
    readValue text =
      if (text.takeWhile fun c => !endsBare c).isEmpty then none
      else some (text.takeWhile fun c => !endsBare c, text.dropWhile fun c => !endsBare c) := by
  unfold readValue
  split
  · simp at h
  · rfl

/-- A character that ends bare values is delicate, so a value that holds it is quoted. -/
theorem isDelicate_of_endsBare {c : Char} (h : endsBare c = true) : isDelicate c = true := by
  simp only [endsBare, Bool.or_eq_true, decide_eq_true_eq] at h
  rcases h with (rfl | rfl) | rfl <;> decide

/-- A bare value that does not look quoted is read up to the next character that ends it. -/
theorem readValue_bare {text : List Char} (hne : text ≠ []) (hhead : text.head? ≠ some '"')
    (hbare : ∀ d ∈ text, endsBare d = false) (rest : List Char) {c : Char}
    (hc : endsBare c = true) : readValue (text ++ c :: rest) = some (text, c :: rest) := by
  have hall : ∀ d ∈ text, (!endsBare d) = true := fun d hd => by rw [hbare d hd]; rfl
  have hhead' : (text ++ c :: rest).head? ≠ some '"' := by
    cases text with
    | nil => exact absurd rfl hne
    | cons d text => exact hhead
  rw [readValue_of_head_ne hhead', List.takeWhile_append_of_pos hall,
    List.dropWhile_append_of_pos hall]
  simp [hc, hne]

/-- A value is read back in front of every character that ends bare values. -/
theorem readValue_quote (text rest : List Char) {c : Char} (hc : endsBare c = true) :
    readValue (quote text ++ c :: rest) = some (text, c :: rest) := by
  rw [quote]
  split
  · have h := readQuoted_escape text (c :: rest)
    simpa [readValue] using h
  · next hplain =>
    -- nothing in a value that is written bare ends it, and it does not look quoted
    simp only [Bool.or_eq_true, not_or, Bool.not_eq_true, List.any_eq_false,
      List.isEmpty_eq_false_iff] at hplain
    obtain ⟨hne, hplain⟩ := hplain
    have hbare : ∀ d ∈ text, endsBare d = false := by
      intro d hd
      apply Bool.eq_false_iff.2
      intro hends
      exact absurd (isDelicate_of_endsBare hends) (Bool.eq_false_iff.1 (hplain d hd))
    have hhead : text.head? ≠ some '"' := by
      intro hd
      exact absurd (hplain '"' (List.mem_of_head? hd)) (by decide)
    exact readValue_bare hne hhead hbare rest hc

/-! ## Rows of values -/

/-- Whether values that are written in some way are read back in front of every character that ends
bare values. -/
def Recovers {α : Type} (write : α → List Char) (value : α → String) : Prop :=
  ∀ (a : α) (rest : List Char) (c : Char), endsBare c = true →
    readValue (write a ++ c :: rest) = some ((value a).toList, c :: rest)

section

variable {α : Type} {write : α → List Char} {value : α → String}

/-- A group and the parenthesis behind it begin with a character that ends bare values. -/
theorem group_append_eq_cons (write : α → List Char) (group : List α) (rest : List Char) :
    ∃ c tail, group.flatMap (fun a => ' ' :: write a) ++ '(' :: rest = c :: tail ∧
      endsBare c = true := by
  cases group with
  | nil => exact ⟨'(', rest, rfl, by decide⟩
  | cons a group => exact ⟨' ', _, rfl, by decide⟩

/-- A group is read back up to the parenthesis, with any bound that is large enough. -/
theorem Recovers.readGroup_of_le (h : Recovers write value) (group : List α) (rest : List Char)
    {bound : Nat} (hbound : group.length ≤ bound) :
    readGroup bound (group.flatMap (fun a => ' ' :: write a) ++ '(' :: rest) =
      some (group.map value, '(' :: rest) := by
  -- the bound only makes the reader stop; every value uses up one of it
  induction group generalizing bound with
  | nil => cases bound <;> simp [Echo.readGroup]
  | cons a group ih =>
    cases bound with
    | zero => simp at hbound
    | succ bound =>
      obtain ⟨c, tail, htail, hc⟩ := group_append_eq_cons write group rest
      have hmore := ih (Nat.le_of_succ_le_succ hbound)
      rw [htail] at hmore
      rw [List.flatMap_cons, List.cons_append, List.cons_append, List.append_assoc, htail,
        Echo.readGroup, h a tail c hc]
      simp [hmore]

/-- A row with spaces is its first value, a space and the other values. -/
theorem intercalate_append_of_cons (write : α → List Char) (first second : α) (more : List α)
    (rest : List Char) :
    List.intercalate [' '] ((first :: second :: more).map write) ++ rest =
      write first ++ ' ' :: (List.intercalate [' '] ((second :: more).map write) ++ rest) := by
  simp [List.intercalate]

/-- A fixed part with at least one value is read back up to the closing parenthesis. -/
theorem Recovers.readFixed (h : Recovers write value) (first : α) (more : List α)
    (rest : List Char) {bound : Nat} (hbound : more.length < bound) :
    readFixed bound (List.intercalate [' '] ((first :: more).map write) ++ ')' :: rest) =
      some ((first :: more).map value, rest) := by
  induction more generalizing first bound with
  | nil =>
    cases bound with
    | zero => simp at hbound
    | succ bound =>
      rw [List.map_singleton, List.intercalate_singleton, Echo.readFixed,
        h first rest ')' (by decide)]
      simp
  | cons second more ih =>
    cases bound with
    | zero => simp at hbound
    | succ bound =>
      have hmore := ih second (Nat.lt_of_succ_lt_succ hbound)
      rw [intercalate_append_of_cons, Echo.readFixed, h first _ ' ' (by decide)]
      simp only [Option.bind_eq_bind, Option.bind_some]
      rw [hmore]
      simp

/-- Writing never makes a row of values shorter than the row itself. -/
theorem length_le_length_group (write : α → List Char) (group : List α) :
    group.length ≤ (group.flatMap fun a => ' ' :: write a).length := by
  induction group with
  | nil => simp
  | cons a group ih =>
    rw [List.flatMap_cons, List.length_append, List.length_cons, List.length_cons]
    omega

theorem Recovers.readGroup (h : Recovers write value) (group : List α) (rest : List Char) :
    Echo.readGroup (group.flatMap (fun a => ' ' :: write a) ++ '(' :: rest).length
        (group.flatMap (fun a => ' ' :: write a) ++ '(' :: rest) =
      some (group.map value, '(' :: rest) := by
  apply h.readGroup_of_le
  have hlength := length_le_length_group write group
  rw [List.length_append]
  omega

theorem length_le_length_fixed (write : α → List Char) (first : α) (more : List α) :
    more.length ≤ (List.intercalate [' '] ((first :: more).map write)).length := by
  induction more generalizing first with
  | nil => simp
  | cons second more ih =>
    have hmore := ih second
    have hsplit := intercalate_append_of_cons write first second more []
    rw [List.append_nil, List.append_nil] at hsplit
    rw [hsplit, List.length_append, List.length_cons, List.length_cons]
    omega

/-- No value begins with a closing parenthesis. -/
theorem readFixed_close (bound : Nat) (behind : List Char) :
    readFixed bound (')' :: behind) = none := by
  cases bound with
  | zero => rfl
  | succ bound => simp [Echo.readFixed, readValue, endsBare]

/-- Behind an opening parenthesis, a fixed part with values is read as such. -/
theorem readParenthesized_of_readFixed {text : List Char} {found : List String × List Char}
    (h : readFixed text.length text = some found) :
    readParenthesized ('(' :: text) = some found := by
  unfold Echo.readParenthesized
  split
  · next behind heq =>
    obtain rfl : text = ')' :: behind := (List.cons.inj heq).2
    rw [readFixed_close] at h
    cases h
  · next rest _ heq =>
    obtain rfl : text = rest := (List.cons.inj heq).2
    exact h
  · next hopen => exact absurd rfl (hopen text)

/-- The fixed part is read back with its parentheses. -/
theorem Recovers.readParenthesized (h : Recovers write value) (fixed : List α)
    (rest : List Char) :
    readParenthesized ('(' :: (List.intercalate [' '] (fixed.map write) ++ ')' :: rest)) =
      some (fixed.map value, rest) := by
  cases fixed with
  | nil => rfl
  | cons first more =>
    apply readParenthesized_of_readFixed
    apply h.readFixed
    have hlength := length_le_length_fixed write first more
    rw [List.length_append, List.length_cons]
    omega

end

/-- The group as it stands in an echo. -/
def groupChars (group : List String) : List Char := group.flatMap fun s => ' ' :: quote s.toList

/-- The fixed part as it stands in an echo, without its parentheses. -/
def fixedChars (fixed : List String) : List Char :=
  List.intercalate [' '] (fixed.map fun s => quote s.toList)

theorem chars_eq (echo : Echo) :
    echo.chars = echo.owner.toList ++
      ':' :: (groupChars echo.group ++ '(' :: (fixedChars echo.fixed ++ [')'])) := by
  simp [chars, groupChars, fixedChars]

/-- Values are read back as they are quoted. -/
theorem recovers_quote : Recovers (fun s : String => quote s.toList) id :=
  fun s rest _ hc => readValue_quote s.toList rest hc

theorem readParenthesized_fixedChars (fixed : List String) (rest : List Char) :
    readParenthesized ('(' :: (fixedChars fixed ++ ')' :: rest)) = some (fixed, rest) := by
  have h := recovers_quote.readParenthesized fixed rest
  rwa [List.map_id] at h

/-! ## Whole echoes -/

/-- What an echo is read from: the owner up to the first colon, the group behind it, and the fixed
part at the end. -/
theorem parse_eq_some_iff {text : String} {echo : Echo} :
    parse text = some echo ↔ ∃ rest behind,
      Text.splitFirst ':' text.toList = some (echo.owner.toList, rest) ∧
      readGroup rest.length rest = some (echo.group, behind) ∧
      readParenthesized behind = some (echo.fixed, []) := by
  rw [parse]
  constructor
  · intro h
    simp only [Option.bind_eq_bind, Option.bind_eq_some_iff, Prod.exists] at h
    obtain ⟨owner, rest, hsplit, group, behind, hgroup, fixed, left, hfixed, h⟩ := h
    cases left with
    | cons c left => simp at h
    | nil =>
      obtain rfl : (⟨String.ofList owner, group, fixed⟩ : Echo) = echo := by simpa using h
      exact ⟨rest, behind, by simpa using hsplit, hgroup, hfixed⟩
  · rintro ⟨rest, behind, hsplit, hgroup, hfixed⟩
    rw [hsplit]
    simp only [Option.bind_eq_bind, Option.bind_some]
    rw [hgroup]
    simp [hfixed]

/-- The owner that is read has no colon. -/
theorem colon_notMem_owner {text : String} {echo : Echo} (h : parse text = some echo) :
    ':' ∉ echo.owner.toList := by
  obtain ⟨rest, behind, hsplit, -, -⟩ := parse_eq_some_iff.1 h
  exact (Text.splitFirst_eq_some_iff.1 hsplit).2

/-- Rows of values that are read back one by one are read back in an echo, if its owner has no
colon. -/
theorem Recovers.parse {α : Type} {write : α → List Char} {value : α → String}
    (h : Recovers write value) {owner : String} (hcolon : ':' ∉ owner.toList)
    (group fixed : List α) :
    parse (String.ofList (owner.toList ++ ':' :: (group.flatMap (fun a => ' ' :: write a) ++
        '(' :: (List.intercalate [' '] (fixed.map write) ++ [')'])))) =
      some ⟨owner, group.map value, fixed.map value⟩ := by
  refine parse_eq_some_iff.2 ⟨_, _, ?_, h.readGroup group _, h.readParenthesized fixed []⟩
  rw [String.toList_ofList]
  exact Text.splitFirst_eq_some_iff.2 ⟨rfl, hcolon⟩

/-- An echo whose owner has no colon is read back whole. -/
theorem parse_render (echo : Echo) (h : ':' ∉ echo.owner.toList) :
    parse echo.render = some echo := by
  have hread := recovers_quote.parse h echo.group echo.fixed
  rw [List.map_id, List.map_id] at hread
  rw [render, chars_eq]
  exact hread

/-- The fixed texts of a list of values are the texts of those that are no groups. -/
theorem flatMap_fixedOf (values : List Value) :
    values.flatMap fixedOf =
      (values.filter fun value => value.type ≠ .stringGroup).map Value.text := by
  induction values with
  | nil => rfl
  | cons value values ih =>
    rw [List.flatMap_cons, ih]
    cases value <;> rfl

/-- Echoes without a colon in their owners have different texts. -/
theorem eq_of_render_eq {a b : Echo} (ha : ':' ∉ a.owner.toList) (hb : ':' ∉ b.owner.toList)
    (h : a.render = b.render) : a = b := by
  have hread := parse_render a ha
  rw [h, parse_render b hb] at hread
  exact (Option.some.inj hread).symm

/-- The echo of a list of values is read back, with the owner, all strings of all groups in order
and the texts of all other values in order, exactly when the owner has no colon. Two such texts are
therefore equal only if all these parts are. -/
theorem parse_render_iff :
    (∀ (owner : String) (values : List Value),
      parse (ofValues owner values).render = some
        ⟨owner, values.flatMap groupOf,
          (values.filter fun value => value.type ≠ .stringGroup).map Value.text⟩ ↔
        ':' ∉ owner.toList) ∧
    ∀ (owner other : String) (values others : List Value),
      ':' ∉ owner.toList → ':' ∉ other.toList →
      (ofValues owner values).render = (ofValues other others).render →
      owner = other ∧ values.flatMap groupOf = others.flatMap groupOf ∧
        (values.filter fun value => value.type ≠ .stringGroup).map Value.text =
          (others.filter fun value => value.type ≠ .stringGroup).map Value.text := by
  constructor
  · intro owner values
    rw [← flatMap_fixedOf]
    constructor
    · exact fun h => colon_notMem_owner h
    · exact fun h => parse_render (ofValues owner values) h
  · intro owner other values others howner hother h
    rw [← flatMap_fixedOf, ← flatMap_fixedOf]
    have hecho := eq_of_render_eq (a := ofValues owner values) (b := ofValues other others)
      howner hother h
    exact ⟨congrArg Echo.owner hecho, congrArg Echo.group hecho, congrArg Echo.fixed hecho⟩

/-- The law at values that need quotes, at an owner with a colon, and at two spellings of one
group. -/
theorem parse_render_awkward :
    parse (ofValues "A" [.string "", .group ["g (", "a\"b\\c"], .char ':']).render =
        some ⟨"A", ["g (", "a\"b\\c"], ["", ":"]⟩ ∧
      parse (ofValues "A:" [.group ["x", "y"]]).render ≠ some ⟨"A:", ["x", "y"], []⟩ ∧
      [Value.group ["x"], .group ["y"]].flatMap groupOf = [Value.group ["x", "y"]].flatMap groupOf := by
  refine ⟨(parse_render_iff.1 "A" _).2 (by decide), fun h => ?_, ?_⟩
  · have hcolon := (parse_render_iff.1 "A:" [.group ["x", "y"]]).1 h
    exact absurd hcolon (by decide)
  · exact (parse_render_iff.2 "A" "A" _ _ (by decide) (by decide) rfl).2.1

/-! ## Owners that imitate an echo -/

/-- A bare value never reaches past a character that ends bare values. -/
theorem splitBare_append (text rest : List Char) {c : Char} (hc : endsBare c = true) :
    (text ++ c :: rest).takeWhile (fun d => !endsBare d) = text.takeWhile (fun d => !endsBare d) ∧
      (text ++ c :: rest).dropWhile (fun d => !endsBare d) =
        text.dropWhile (fun d => !endsBare d) ++ c :: rest := by
  induction text with
  | nil => simp [hc]
  | cons d text ih =>
    by_cases hd : endsBare d = true
    · simp [hd]
    · simp only [Bool.not_eq_true] at hd
      simp [hd, ih.1, ih.2]

/-- Without quotes a value is a piece of the text that nothing in it ends, and reading stops at the
latest before the next character that ends bare values. -/
theorem readValue_append_of_quote_notMem {text rest value behind : List Char} {c : Char}
    (hquote : '"' ∉ text) (hc : endsBare c = true)
    (h : readValue (text ++ c :: rest) = some (value, behind)) :
    ∃ left, text = value ++ left ∧ behind = left ++ c :: rest ∧ value ≠ [] ∧
      ∀ d ∈ value, endsBare d = false := by
  have hhead : (text ++ c :: rest).head? ≠ some '"' := by
    cases text with
    | nil =>
      intro hd
      obtain rfl : c = '"' := by simpa using hd
      exact absurd hc (by decide)
    | cons d text =>
      intro hd
      obtain rfl : d = '"' := by simpa using hd
      exact hquote List.mem_cons_self
  obtain ⟨htake, hdrop⟩ := splitBare_append text rest hc
  rw [readValue_of_head_ne hhead, htake, hdrop] at h
  split at h
  · cases h
  · next hne =>
    obtain ⟨rfl, rfl⟩ := Prod.mk.inj (Option.some.inj h)
    refine ⟨_, List.takeWhile_append_dropWhile.symm, rfl, by simpa using hne, fun d hd => ?_⟩
    have hall := List.all_eq_true.1 (List.all_takeWhile (p := fun d => !endsBare d) (l := text))
    simpa using hall d hd

/-- Without quotes, a fixed part cannot be read across an opening parenthesis. -/
theorem readFixed_behind_ne_nil {bound : Nat} {text rest : List Char}
    {found : List String × List Char} (hquote : '"' ∉ text)
    (h : readFixed bound (text ++ '(' :: rest) = some found) : found.2 ≠ [] := by
  -- every value ends before the parenthesis, and no value may be followed by one
  induction bound generalizing text found with
  | zero => cases h
  | succ bound ih =>
    rw [readFixed] at h
    simp only [Option.bind_eq_bind, Option.bind_eq_some_iff, Prod.exists] at h
    obtain ⟨value, behind, hvalue, h⟩ := h
    obtain ⟨left, rfl, rfl, -, -⟩ := readValue_append_of_quote_notMem hquote (by decide) hvalue
    have hleft : '"' ∉ left := fun hmem => hquote (List.mem_append_right _ hmem)
    cases left with
    | nil => simp at h
    | cons c left =>
      rw [List.cons_append] at h
      split at h
      · next heq =>
        obtain ⟨-, rfl⟩ := List.cons.inj heq
        obtain rfl := Option.some.inj h
        simp
      · next next heq =>
        obtain ⟨-, rfl⟩ := List.cons.inj heq
        simp only [Option.bind_eq_some_iff, Prod.exists] at h
        obtain ⟨more, last, hmore, h⟩ := h
        have hne := ih (fun hmem => hleft (List.mem_cons_of_mem _ hmem)) hmore
        obtain rfl := Option.some.inj h
        exact hne
      · cases h

/-- Without quotes, an echo's fixed part that is read to the end begins at the last opening
parenthesis. -/
theorem eq_nil_of_readParenthesized {text rest : List Char} {fixed : List String}
    (hquote : '"' ∉ text) (h : readParenthesized (text ++ '(' :: rest) = some (fixed, [])) :
    text = [] := by
  cases text with
  | nil => rfl
  | cons c text =>
    have htext : '"' ∉ text := fun hmem => hquote (List.mem_cons_of_mem _ hmem)
    rw [List.cons_append] at h
    unfold readParenthesized at h
    split at h
    · next behind heq =>
      obtain ⟨-, htail⟩ := List.cons.inj heq
      obtain rfl : behind = [] := (Prod.mk.inj (Option.some.inj h)).2
      cases text with
      | nil => simp at htail
      | cons d text => simp at htail
    · next inner _ heq =>
      obtain ⟨-, rfl⟩ := List.cons.inj heq
      exact absurd rfl (readFixed_behind_ne_nil htext h)
    · cases h

theorem readGroup_zero (text : List Char) : readGroup 0 text = some ([], text) := by
  simp [readGroup]

/-- A text that does not begin with a space has no group in front. -/
theorem readGroup_of_head_ne {bound : Nat} {text : List Char} (h : text.head? ≠ some ' ') :
    readGroup bound text = some ([], text) := by
  unfold readGroup
  split
  · simp at h
  · rfl

/-- A row of bare values, each behind a space, and the strings they stand for. -/
inductive BareRow : List Char → List String → Prop where
  | nil : BareRow [] []
  | cons {value text : List Char} {group : List String} (ne_nil : value ≠ [])
      (bare : ∀ c ∈ value, endsBare c = false) (more : BareRow text group) :
      BareRow (' ' :: (value ++ text)) (String.ofList value :: group)

/-- A row has as many values as spaces. -/
theorem BareRow.length_eq_count {text : List Char} {group : List String}
    (row : BareRow text group) : group.length = text.count ' ' := by
  induction row with
  | nil => rfl
  | @cons value text group _ bare _ ih =>
    have hspace : ' ' ∉ value := fun hmem => absurd (bare ' ' hmem) (by decide)
    rw [List.length_cons, List.count_cons_self, List.count_append,
      List.count_eq_zero_of_not_mem hspace, ih, Nat.zero_add]

theorem BareRow.head? {text : List Char} {group : List String} (row : BareRow text group) :
    text = [] ∨ text.head? = some ' ' := by
  cases row with
  | nil => exact Or.inl rfl
  | cons => exact Or.inr rfl

/-- Behind a row and in front of a parenthesis stands a character that ends bare values. -/
theorem BareRow.append_eq_cons {text : List Char} {group : List String} (row : BareRow text group)
    (rest : List Char) : ∃ c tail, text ++ '(' :: rest = c :: tail ∧ endsBare c = true := by
  cases row with
  | nil => exact ⟨'(', rest, rfl, by decide⟩
  | cons => exact ⟨' ', _, rfl, by decide⟩

/-- A row without quotes is read as its strings, whatever stands behind the parenthesis. -/
theorem BareRow.readGroup {text : List Char} {group : List String} (row : BareRow text group)
    (hquote : '"' ∉ text) {bound : Nat} (hbound : text.length ≤ bound) (rest : List Char) :
    readGroup bound (text ++ '(' :: rest) = some (group, '(' :: rest) := by
  induction row generalizing bound with
  | nil => exact readGroup_of_head_ne (by simp)
  | @cons value text group ne_nil bare more ih =>
    simp only [List.mem_cons, List.mem_append, not_or] at hquote
    obtain ⟨-, hvalue, htext⟩ := hquote
    cases bound with
    | zero => simp at hbound
    | succ bound =>
      simp only [List.length_cons, List.length_append] at hbound
      obtain ⟨c, tail, htail, hc⟩ := more.append_eq_cons rest
      have hread : readValue (value ++ (text ++ '(' :: rest)) =
          some (value, text ++ '(' :: rest) := by
        rw [htail]
        exact readValue_bare ne_nil (fun hd => hvalue (List.mem_of_head? hd)) bare tail hc
      have hmore := ih htext (by omega : text.length ≤ bound)
      rw [List.cons_append, List.append_assoc, Echo.readGroup, hread]
      simp [hmore]

/-- Without quotes, whatever stands before the opening parenthesis of an echo that is read to its
end is a row of values, and the group is read up to that parenthesis. -/
theorem bareRow_of_readGroup {bound : Nat} {text rest behind : List Char}
    {group fixed : List String} (hquote : '"' ∉ text)
    (hgroup : readGroup bound (text ++ '(' :: rest) = some (group, behind))
    (hfixed : readParenthesized behind = some (fixed, [])) :
    BareRow text group ∧ behind = '(' :: rest := by
  -- a value takes the space in front of it along and leaves the other spaces to the values behind
  induction bound generalizing text group with
  | zero =>
    obtain ⟨rfl, rfl⟩ := Prod.mk.inj (Option.some.inj ((readGroup_zero _).symm.trans hgroup))
    obtain rfl := eq_nil_of_readParenthesized hquote hfixed
    exact ⟨.nil, rfl⟩
  | succ bound ih =>
    by_cases hspace : text.head? = some ' '
    · obtain ⟨text, rfl⟩ : ∃ tail, text = ' ' :: tail := List.head?_eq_some_iff.1 hspace
      have htext : '"' ∉ text := fun hmem => hquote (List.mem_cons_of_mem _ hmem)
      rw [List.cons_append, readGroup] at hgroup
      simp only [Option.bind_eq_bind, Option.bind_eq_some_iff, Prod.exists] at hgroup
      obtain ⟨value, left, hvalue, more, last, hmore, hgroup⟩ := hgroup
      obtain ⟨left, rfl, rfl, hne, hbare⟩ :=
        readValue_append_of_quote_notMem htext (by decide) hvalue
      obtain ⟨rfl, rfl⟩ := Prod.mk.inj (Option.some.inj hgroup)
      obtain ⟨row, hbehind⟩ := ih (fun hmem => htext (List.mem_append_right _ hmem)) hmore
      exact ⟨row.cons hne hbare, hbehind⟩
    · have hhead : (text ++ '(' :: rest).head? ≠ some ' ' := by
        cases text with
        | nil => simp
        | cons c text => simpa using hspace
      obtain ⟨rfl, rfl⟩ :=
        Prod.mk.inj (Option.some.inj ((readGroup_of_head_ne hhead).symm.trans hgroup))
      obtain rfl := eq_nil_of_readParenthesized hquote hfixed
      exact ⟨.nil, rfl⟩

/-- Every value of a group stands behind a space of its own. -/
theorem length_le_count_groupChars (group : List String) :
    group.length ≤ (groupChars group).count ' ' := by
  induction group with
  | nil => simp
  | cons s group ih =>
    have hsplit : groupChars (s :: group) = ' ' :: (quote s.toList ++ groupChars group) := by
      simp [groupChars]
    rw [hsplit, List.count_cons_self, List.count_append, List.length_cons]
    omega

/-- An owner with a colon and without quotes can make an echo that is read, but never one of the
same group: what it puts before its own group adds to it. -/
theorem length_group_lt_of_colon_mem {echo found : Echo} (hcolon : ':' ∈ echo.owner.toList)
    (hquote : '"' ∉ echo.owner.toList) (hgroup : '"' ∉ groupChars echo.group)
    (h : parse echo.render = some found) : echo.group.length < found.group.length := by
  obtain ⟨rest, behind, hsplit, hread, hfixed⟩ := parse_eq_some_iff.1 h
  obtain ⟨first, more, howner, hfirst⟩ := List.eq_append_cons_of_mem hcolon
  have hforged : Text.splitFirst ':' echo.render.toList = some (first,
      (more ++ ':' :: groupChars echo.group) ++ '(' :: (fixedChars echo.fixed ++ [')'])) := by
    refine Text.splitFirst_eq_some_iff.2 ⟨?_, hfirst⟩
    rw [render, String.toList_ofList, chars_eq, howner]
    simp
  obtain rfl := (Prod.mk.inj (Option.some.inj (hsplit.symm.trans hforged))).2
  have hplain : '"' ∉ more ++ ':' :: groupChars echo.group := by
    intro hmem
    rcases List.mem_append.1 hmem with hmore | hmem
    · exact hquote (howner ▸ List.mem_append_right _ (List.mem_cons_of_mem _ hmore))
    · exact hgroup ((List.mem_cons.1 hmem).resolve_left (by decide))
  obtain ⟨row, -⟩ := bareRow_of_readGroup hplain hread hfixed
  have hlength := row.length_eq_count
  have hhead := row.head?
  have hown := length_le_count_groupChars echo.group
  -- the text in front of the group is not empty, so it begins with a space of its own
  cases more with
  | nil => simp at hhead
  | cons c more =>
    obtain rfl : c = ' ' := by simpa using hhead
    rw [List.cons_append, List.count_cons_self, List.count_append, List.count_cons] at hlength
    omega

/-- Where neither the owner nor the group has a quote, the fixed part is read as it stands, and it
has no say in what the rest is read as. -/
theorem parse_render_fixed {owner : String} {group fixed : List String} {found : Echo}
    (hquote : '"' ∉ owner.toList) (hgroup : '"' ∉ groupChars group)
    (h : parse (Echo.mk owner group fixed).render = some found) (other : List String) :
    found.fixed = fixed ∧
      parse (Echo.mk owner group other).render = some ⟨found.owner, found.group, other⟩ := by
  -- the first colon stands in front of the fixed part, whether the owner has one or not
  obtain ⟨first, text, hfront, hfirst⟩ :=
    List.eq_append_cons_of_mem (List.mem_append_right owner.toList
      (List.mem_cons_self : ':' ∈ ':' :: groupChars group))
  have hsplit : ∀ parts, Text.splitFirst ':' (Echo.mk owner group parts).render.toList =
      some (first, text ++ '(' :: (fixedChars parts ++ [')'])) := by
    intro parts
    refine Text.splitFirst_eq_some_iff.2 ⟨?_, hfirst⟩
    rw [render, String.toList_ofList, chars_eq, ← List.cons_append, ← List.append_assoc, hfront]
    simp
  have htext : '"' ∉ text := by
    intro hmem
    have hmem' : '"' ∈ owner.toList ++ ':' :: groupChars group := by
      rw [hfront]
      exact List.mem_append_right _ (List.mem_cons_of_mem _ hmem)
    rcases List.mem_append.1 hmem' with howner | hrest
    · exact hquote howner
    · exact hgroup ((List.mem_cons.1 hrest).resolve_left (by decide))
  obtain ⟨rest, behind, hfound, hread, hfixed⟩ := parse_eq_some_iff.1 h
  obtain ⟨rfl, rfl⟩ := Prod.mk.inj (Option.some.inj ((hsplit fixed).symm.trans hfound))
  obtain ⟨row, rfl⟩ := bareRow_of_readGroup htext hread hfixed
  have hsame := (readParenthesized_fixedChars fixed []).symm.trans hfixed
  refine ⟨(Prod.mk.inj (Option.some.inj hsame)).1.symm, parse_eq_some_iff.2 ⟨_, _, hsplit other, ?_,
    readParenthesized_fixedChars other []⟩⟩
  exact row.readGroup htext (by rw [List.length_append]; omega) _

end Linkage.Echo
