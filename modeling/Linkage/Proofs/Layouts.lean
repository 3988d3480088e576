import Linkage.Proofs.TokenRows
import Linkage.Text.Basic

/-!
# Layouts

A text is laid out by a row of tokens when it consists of these tokens in order, with a gap in front
of each and one at the end (`Laid`). A token begins with a character that no gap runs over, so a
text has its tokens in one place only, and `Seam` names the places between them: behind some of the
tokens and any part of the gap that follows, but not inside a comment. All other places are inside a
token or a comment (`Laid.place`).

Two texts with the same tokens are compared by their gaps. `Relaid` says that the second one has a
gap wherever the first has one. Nothing but a gap can then make the second text begin otherwise than
the first, and a word in which no gap could be hidden stands at the beginning of the second text
only if it stands at that of the first (`Abreast.begins`). A gap that is put into a seam makes a
text of this kind (`Laid.relaid_insert`).
-/

namespace Linkage.Script

/-! ## Gaps -/

/-- The gap a text begins with. -/
def gapOf (text : List Char) : List Char := (splitGap false text).1

/-- A text without the gap it begins with. -/
def pastGap (text : List Char) : List Char := (splitGap false text).2

/-- Whether a text is made of blanks and of comments that are ended by a line feed. -/
inductive IsGap : List Char → Prop where
  | nil : IsGap []
  | blank {c : Char} {rest : List Char} (blank : isSpace c = true) (more : IsGap rest) :
      IsGap (c :: rest)
  | comment {letters rest : List Char} (line : '\n' ∉ letters) (more : IsGap rest) :
      IsGap ('/' :: '/' :: (letters ++ '\n' :: rest))

variable {text text' front behind gap letters : List Char} {token : String}
  {tokens before after : List String}

theorem gapOf_append_pastGap (text : List Char) : gapOf text ++ pastGap text = text :=
  splitGap_append false text

theorem length_pastGap_le (text : List Char) : (pastGap text).length ≤ text.length := by
  have h := congrArg List.length (gapOf_append_pastGap text)
  rw [List.length_append] at h
  omega

/-- A text without a gap in front is left as it is. -/
theorem pastGap_eq_self_iff : pastGap text = text ↔ gapOf text = [] := by
  constructor
  · intro h
    have happend := gapOf_append_pastGap text
    rw [h] at happend
    exact List.append_left_eq_self.1 happend
  · intro h
    have happend := gapOf_append_pastGap text
    rwa [h, List.nil_append] at happend

theorem gapOf_of_solid (h : Solid text) : gapOf text = [] := by
  rw [gapOf, splitGap_of_solid h]

theorem pastGap_of_solid (h : Solid text) : pastGap text = text := by
  rw [pastGap, splitGap_of_solid h]

/-- Behind a gap there is no other one. -/
theorem pastGap_pastGap (text : List Char) : pastGap (pastGap text) = pastGap text := by
  have h : ∀ inComment, pastGap (splitGap inComment text).2 = (splitGap inComment text).2 := by
    intro inComment
    fun_induction splitGap inComment text with
    | case1 => rfl
    | case2 c rest ih => exact ih
    | case3 rest ih => exact ih
    | case4 c rest _ _ ih => exact ih
    | case5 c rest hcomment hspace =>
      rw [pastGap, splitGap]
      · rw [if_neg hspace]
      · exact hcomment
  exact h false

/-- A gap opens with a blank or with two slashes. -/
theorem gap_opens (h : gapOf text ≠ []) :
    (∃ c rest, text = c :: rest ∧ isSpace c = true) ∨ ∃ rest, text = '/' :: '/' :: rest := by
  rw [gapOf] at h
  generalize hopen : false = inComment at h
  fun_cases splitGap inComment text with
  | case1 => exact absurd rfl h
  | case2 c rest => cases hopen
  | case3 rest => exact Or.inr ⟨rest, rfl⟩
  | case4 c rest _ hspace => exact Or.inl ⟨c, rest, rfl, hspace⟩
  | case5 c rest hcomment hspace =>
    rw [splitGap, if_neg hspace] at h
    · exact absurd rfl h
    · exact hcomment

/-- Inside a comment everything is passed over up to the line feed. -/
theorem splitGap_of_line (h : '\n' ∉ letters) (rest : List Char) :
    (splitGap true (letters ++ rest)).2 = (splitGap true rest).2 := by
  induction letters with
  | nil => rfl
  | cons c letters ih =>
    obtain ⟨hc, hletters⟩ := not_or.1 (mt List.mem_cons.2 h)
    have hopen : (c != '\n') = true := bne_iff_ne.2 (Ne.symm hc)
    rw [List.cons_append, splitGap, hopen]
    exact ih hletters

/-- What follows a gap is past it as it would be alone. -/
theorem IsGap.pastGap_append (h : IsGap gap) (text : List Char) :
    pastGap (gap ++ text) = pastGap text := by
  induction h with
  | nil => rfl
  | blank hblank _ ih =>
    rw [List.cons_append, pastGap, splitGap_of_space hblank]
    exact ih
  | @comment letters rest hline _ ih =>
    rw [List.cons_append, List.cons_append, List.append_assoc, pastGap, splitGap]
    show (splitGap true _).2 = _
    rw [splitGap_of_line hline]
    exact ih

/-- An open comment goes on through a gap that is put behind it, and is over where it was before or
earlier. -/
theorem IsGap.pastComment_append (h : IsGap gap)
    (hbehind : ∀ c ∈ behind.head?, c = '\n') :
    (splitGap true (gap ++ behind)).2 = pastGap behind := by
  have hbare : (splitGap true behind).2 = pastGap behind := by
    cases behind with
    | nil => rfl
    | cons c rest =>
      obtain rfl : c = '\n' := hbehind c rfl
      rfl
  induction h with
  | nil => exact hbare
  | @blank c rest hblank more ih =>
    rw [List.cons_append, splitGap]
    cases hc : (c != '\n') with
    | true => exact ih
    | false => exact more.pastGap_append behind
  | @comment letters rest hline more _ =>
    have hslash : ∀ rest, (splitGap true ('/' :: rest)).2 = (splitGap true rest).2 := fun _ => rfl
    rw [List.cons_append, List.cons_append, List.append_assoc, hslash, hslash,
      splitGap_of_line hline]
    exact more.pastGap_append behind

/-! ## Texts with tokens -/

/-- Whether a text is laid out by a row of tokens: the tokens in order, with a gap in front of each
and at the end, where a comment may be open. -/
inductive Laid : List String → List Char → Prop where
  | finished {text : List Char} (finished : pastGap text = []) : Laid [] text
  | token {token : String} {tokens : List String} {text behind : List Char}
      (solid : Solid token.toList) (begins : pastGap text = token.toList ++ behind)
      (more : Laid tokens behind) : Laid (token :: tokens) text

/-- Whether a text may be parted between tokens, with the given tokens in front: what is in front
ends with one of them and any part of a gap, but not inside a comment. -/
inductive Seam : List String → List Char → List Char → Prop where
  | between {gap behind : List Char} (closed : IsGap gap) : Seam [] gap behind
  | behindComment {gap letters behind : List Char} (closed : IsGap gap) (line : '\n' ∉ letters)
      (ended : ∀ c ∈ behind.head?, c = '\n') : Seam [] (gap ++ '/' :: '/' :: letters) behind
  | token {token : String} {before : List String} {gap front behind : List Char}
      (closed : IsGap gap) (more : Seam before front behind) :
      Seam (token :: before) (gap ++ (token.toList ++ front)) behind

/-- Whether the gap of one text may stand for that of another. It is missing only if the other one
is. The dots of a string group are read with what is in front of them, so that only blanks may
differ there. -/
structure Regapped (tokens : List String) (text text' : List Char) : Prop where
  kept : gapOf text' = [] → gapOf text = []
  dots : tokens.head? = some "..." →
    (gapOf text').filter (fun c => !Text.isBlank c) = (gapOf text).filter fun c => !Text.isBlank c

/-- Whether two texts begin with the same token and are the same but for the gaps. -/
inductive Abreast : List String → List Char → List Char → Prop where
  | finished : Abreast [] [] []
  | token {token : String} {tokens : List String} {text text' : List Char}
      (solid : Solid token.toList) (gaps : Regapped tokens text text')
      (more : Abreast tokens (pastGap text) (pastGap text')) :
      Abreast (token :: tokens) (token.toList ++ text) (token.toList ++ text')

/-- Whether two texts are the same but for the gaps, the first of which may be in front of all. -/
structure Relaid (tokens : List String) (text text' : List Char) : Prop
    extends Regapped tokens text text' where
  abreast : Abreast tokens (pastGap text) (pastGap text')

theorem Regapped.refl (tokens : List String) (text : List Char) : Regapped tokens text text :=
  ⟨id, fun _ => rfl⟩

/-- Only what is past its gap is looked at. -/
theorem laid_pastGap_iff : Laid tokens (pastGap text) ↔ Laid tokens text := by
  constructor
  · intro h
    cases h with
    | finished hfinished => exact .finished (by rwa [pastGap_pastGap] at hfinished)
    | token hsolid hbegins hmore => exact .token hsolid (by rwa [pastGap_pastGap] at hbegins) hmore
  · intro h
    cases h with
    | finished hfinished => exact .finished (by rwa [pastGap_pastGap])
    | token hsolid hbegins hmore => exact .token hsolid (by rwa [pastGap_pastGap]) hmore

theorem Laid.abreast (h : Laid tokens text) : Abreast tokens (pastGap text) (pastGap text) := by
  induction h with
  | finished hfinished =>
    rw [hfinished]
    exact .finished
  | token hsolid hbegins _ ih =>
    rw [hbegins]
    exact .token hsolid (.refl _ _) ih

theorem Laid.relaid (h : Laid tokens text) : Relaid tokens text text :=
  ⟨.refl _ _, h.abreast⟩

/-- Texts that begin with a token have no gap in front. -/
theorem Abreast.pastGap_eq (h : Abreast tokens text text') :
    pastGap text = text ∧ pastGap text' = text' := by
  cases h with
  | finished => exact ⟨rfl, rfl⟩
  | token hsolid _ _ =>
    exact ⟨pastGap_of_solid (hsolid.append _), pastGap_of_solid (hsolid.append _)⟩

/-- A text that is over has no tokens, so that the other one is over as well. -/
theorem Abreast.eq_nil (h : Abreast tokens [] text') : text' = [] := by
  generalize hnil : [] = text at h
  cases h with
  | finished => rfl
  | token solid _ _ =>
    obtain ⟨first, rest, hletters, -⟩ := solid
    rw [hletters] at hnil
    cases hnil

/-- Behind a token that both texts begin with, they are the same but for the gaps. -/
theorem Abreast.behind_token (h : Abreast (token :: tokens) (token.toList ++ text) text') :
    ∃ behind', text' = token.toList ++ behind' ∧ Relaid tokens text behind' := by
  generalize hwhole : token.toList ++ text = whole at h
  cases h with
  | token _ gaps more =>
    obtain rfl := List.append_cancel_left hwhole
    exact ⟨_, rfl, gaps, more⟩

theorem Abreast.relaid (h : Abreast tokens text text') : Relaid tokens text text' := by
  obtain ⟨hpast, hpast'⟩ := h.pastGap_eq
  have hgap := pastGap_eq_self_iff.1 hpast
  have hgap' := pastGap_eq_self_iff.1 hpast'
  refine ⟨⟨fun _ => hgap, fun _ => by rw [hgap, hgap']⟩, ?_⟩
  rwa [hpast, hpast']

/-! ## What the second text begins with -/

/-- Whether no gap begins within a text. -/
def Clean (letters : List Char) : Prop := ∀ c ∈ letters, isSpace c = false ∧ c ≠ '/'

/-- The characters of the text are gone through, rather than all characters. -/
instance : DecidablePred Clean := fun letters =>
  List.decidableBAll (fun c => isSpace c = false ∧ c ≠ '/') letters

theorem Clean.solid (h : Clean letters) (hne : letters ≠ []) : Solid letters := by
  cases letters with
  | nil => exact absurd rfl hne
  | cons first rest => exact ⟨first, rest, rfl, h first List.mem_cons_self⟩

/-- The second text begins as the first one does, or with a gap. -/
theorem Relaid.head? (h : Relaid tokens text text') :
    text'.head? = text.head? ∨ ∃ c ∈ text'.head?, isSpace c = true ∨ c = '/' := by
  by_cases hgap' : gapOf text' = []
  · -- neither text has a gap, so both begin with the next token or are over
    have hgap := h.kept hgap'
    have habreast := h.abreast
    rw [pastGap_eq_self_iff.2 hgap, pastGap_eq_self_iff.2 hgap'] at habreast
    left
    cases habreast with
    | finished => rfl
    | token hsolid _ _ =>
      obtain ⟨first, rest, hletters, -⟩ := hsolid
      simp [hletters]
  · right
    rcases gap_opens hgap' with ⟨c, rest, rfl, hspace⟩ | ⟨rest, rfl⟩
    · exact ⟨c, rfl, Or.inl hspace⟩
    · exact ⟨'/', rfl, Or.inr rfl⟩

/-- A character that opens no gap begins the second text only if it begins the first one. -/
theorem Relaid.head?_of_clean {c : Char} (h : Relaid tokens text text')
    (hc : isSpace c = false ∧ c ≠ '/') (hhead : c ∈ text'.head?) : c ∈ text.head? := by
  rcases h.head? with heq | ⟨d, hd, hgap⟩
  · rwa [heq] at hhead
  · obtain rfl : c = d := Option.some.inj (hhead.symm.trans hd)
    rcases hgap with hspace | hslash
    · rw [hc.1] at hspace
      cases hspace
    · exact absurd hslash hc.2

/-- A clean word that begins the second text begins the first one as well: gaps are only put in. -/
theorem Abreast.begins (h : Abreast tokens text text') (clean : Clean letters)
    (hbegins : letters <+: text') : letters <+: text := by
  induction h generalizing letters with
  | finished => exact hbegins
  | @token token tokens text text' _ gaps more ih =>
    rcases List.prefix_or_prefix_of_prefix hbegins (List.prefix_append token.toList text') with
      hwithin | ⟨rest, rfl⟩
    · exact hwithin.trans (List.prefix_append _ _)
    · -- the word reaches into what follows the token, so that no gap follows the token
      rw [List.prefix_append_right_inj] at hbegins ⊢
      have hrest : Clean rest := fun c hc => clean c (List.mem_append_right _ hc)
      cases rest with
      | nil => exact List.nil_prefix
      | cons c rest =>
        have hgap' : gapOf text' = [] := by
          obtain ⟨behind, rfl⟩ := hbegins
          exact gapOf_of_solid ⟨c, rest ++ behind, rfl, hrest c List.mem_cons_self⟩
        rw [pastGap_eq_self_iff.2 hgap', pastGap_eq_self_iff.2 (gaps.kept hgap')] at ih
        exact ih hrest hbegins

/-! ## Gaps that are put in -/

/-- What is in front of a seam within a gap is passed over, whatever gap is put in. -/
theorem Seam.pastGap_append (seam : Seam [] front behind) (closed : IsGap gap) :
    pastGap (front ++ (gap ++ behind)) = pastGap behind := by
  cases seam with
  | between closed' => rw [closed'.pastGap_append, closed.pastGap_append]
  | @behindComment before letters _ closed' line ended =>
    rw [List.append_assoc, closed'.pastGap_append, List.cons_append, List.cons_append, pastGap,
      splitGap]
    show (splitGap true _).2 = _
    rw [splitGap_of_line line, closed.pastComment_append ended]

/-- All of it belongs to the gap. -/
theorem Seam.gapOf_append (seam : Seam [] front behind) (closed : IsGap gap) :
    gapOf (front ++ (gap ++ behind)) = front ++ (gap ++ gapOf behind) := by
  have h := gapOf_append_pastGap (front ++ (gap ++ behind))
  have hall : front ++ (gap ++ gapOf behind) ++ pastGap behind = front ++ (gap ++ behind) := by
    rw [List.append_assoc, List.append_assoc, gapOf_append_pastGap]
  rw [seam.pastGap_append closed] at h
  exact List.append_cancel_right (h.trans hall.symm)

theorem filter_eq_nil_of_blank (h : ∀ c ∈ gap, isSpace c = true) :
    gap.filter (fun c => !Text.isBlank c) = [] := by
  apply List.filter_eq_nil_iff.2
  intro c hc
  have hspace := h c hc
  simp only [isSpace, Bool.or_eq_true, decide_eq_true_eq] at hspace
  rcases hspace with ((rfl | rfl) | rfl) | rfl <;> decide

theorem IsGap.gapOf_append (h : IsGap gap) (text : List Char) :
    gapOf (gap ++ text) = gap ++ gapOf text :=
  (Seam.between h).gapOf_append .nil

/-- A gap may be put into a gap, but in front of the dots of a string group it has to be blank. -/
theorem Laid.relaid_insert_nil (laid : Laid tokens (front ++ behind)) (seam : Seam [] front behind)
    (closed : IsGap gap) (blank : tokens.head? = some "..." → ∀ c ∈ gap, isSpace c = true) :
    Relaid tokens (front ++ behind) (front ++ (gap ++ behind)) := by
  have hpast : pastGap (front ++ behind) = pastGap behind := seam.pastGap_append .nil
  have hgap : gapOf (front ++ behind) = front ++ gapOf behind := seam.gapOf_append .nil
  have habreast := laid.abreast
  rw [hpast] at habreast
  refine ⟨⟨?_, ?_⟩, ?_⟩
  · rw [seam.gapOf_append closed, hgap]
    simp only [List.append_eq_nil_iff]
    exact fun hnone => ⟨hnone.1, hnone.2.2⟩
  · intro hdots
    rw [seam.gapOf_append closed, hgap]
    simp [filter_eq_nil_of_blank (blank hdots)]
  · rwa [hpast, seam.pastGap_append closed]

/-- A gap may be put into any seam, except for comments in front of the dots of a string group. -/
theorem Laid.relaid_insert (laid : Laid (before ++ after) (front ++ behind))
    (seam : Seam before front behind) (closed : IsGap gap)
    (blank : after.head? = some "..." → ∀ c ∈ gap, isSpace c = true) :
    Relaid (before ++ after) (front ++ behind) (front ++ (gap ++ behind)) := by
  induction seam with
  | between closed' => exact laid.relaid_insert_nil (.between closed') closed blank
  | behindComment closed' line ended =>
    exact laid.relaid_insert_nil (.behindComment closed' line ended) closed blank
  | @token token before first front behind closed' more ih =>
    cases laid with
    | @token _ _ _ rest solid begins laid =>
      -- the first token is in the same place in both texts, behind the same gap
      have hpast : ∀ text, pastGap (first ++ (token.toList ++ text)) = token.toList ++ text := by
        intro text
        rw [closed'.pastGap_append, pastGap_of_solid (solid.append _)]
      have hgap : ∀ text, gapOf (first ++ (token.toList ++ text)) = first := by
        intro text
        rw [closed'.gapOf_append, gapOf_of_solid (solid.append _), List.append_nil]
      have hrest : rest = front ++ behind := by
        rw [List.append_assoc, List.append_assoc, hpast] at begins
        exact (List.append_cancel_left begins).symm
      have hmore := ih (hrest ▸ laid)
      rw [List.append_assoc, List.append_assoc, List.append_assoc, List.append_assoc]
      refine ⟨⟨?_, ?_⟩, ?_⟩
      · rw [hgap, hgap]
        exact id
      · rw [hgap, hgap]
        exact fun _ => rfl
      · rw [hpast, hpast]
        exact .token solid hmore.toRegapped hmore.abreast

/-! ## Places -/

/-- Whether a place is strictly inside a piece of a text that stands behind the given tokens. -/
def Inside (before : List String) (piece front behind : List Char) : Prop :=
  ∃ start left right tail, Seam before start (piece ++ tail) ∧ piece = left ++ right ∧
    left ≠ [] ∧ right ≠ [] ∧ front = start ++ left ∧ behind = right ++ tail

/-- The places in a text with tokens: between tokens, inside a token, or inside a comment. -/
inductive Place (tokens : List String) (front behind : List Char) : Prop where
  | seam {before after : List String} (parts : tokens = before ++ after)
      (seam : Seam before front behind) : Place tokens front behind
  | inToken {before after : List String} {token : String}
      (parts : tokens = before ++ token :: after)
      (inside : Inside before token.toList front behind) : Place tokens front behind
  | inComment {before after : List String} {letters : List Char} (parts : tokens = before ++ after)
      (line : '\n' ∉ letters) (inside : Inside before ('/' :: '/' :: letters) front behind) :
      Place tokens front behind

/-- A text is read line by line. -/
theorem exists_line (text : List Char) : ∃ letters tail, text = letters ++ tail ∧
    '\n' ∉ letters ∧ ∀ c ∈ tail.head?, c = '\n' := by
  induction text with
  | nil => exact ⟨[], [], rfl, List.not_mem_nil, by simp⟩
  | cons c rest ih =>
    by_cases hc : c = '\n'
    · exact ⟨[], c :: rest, rfl, List.not_mem_nil, by simpa using hc⟩
    · obtain ⟨letters, tail, rfl, hline, htail⟩ := ih
      have hmore := List.not_mem_cons_of_ne_of_not_mem (Ne.symm hc) hline
      exact ⟨c :: letters, tail, rfl, hmore, htail⟩

/-- Gaps add up. -/
theorem IsGap.append {more : List Char} (h : IsGap gap) (hmore : IsGap more) :
    IsGap (gap ++ more) := by
  induction h with
  | nil => exact hmore
  | blank hblank _ ih => exact .blank hblank ih
  | @comment letters rest line _ ih =>
    rw [List.cons_append, List.cons_append, List.append_assoc]
    exact .comment line ih

/-- A seam stays one when a gap is put in front of all. -/
theorem Seam.gap_append (closed : IsGap gap) (seam : Seam before front behind) :
    Seam before (gap ++ front) behind := by
  cases seam with
  | between closed' => exact .between (closed.append closed')
  | behindComment closed' line ended =>
    rw [← List.append_assoc]
    exact .behindComment (closed.append closed') line ended
  | token closed' more =>
    rw [← List.append_assoc]
    exact .token (closed.append closed') more

theorem Inside.gap_append {piece : List Char} (closed : IsGap gap)
    (inside : Inside before piece front behind) : Inside before piece (gap ++ front) behind := by
  obtain ⟨start, left, right, tail, seam, hpiece, hleft, hright, rfl, rfl⟩ := inside
  exact ⟨gap ++ start, left, right, tail, seam.gap_append closed, hpiece, hleft, hright,
    (List.append_assoc _ _ _).symm, rfl⟩

theorem Inside.behind_token {piece : List Char} (closed : IsGap gap)
    (inside : Inside before piece front behind) :
    Inside (token :: before) piece (gap ++ (token.toList ++ front)) behind := by
  obtain ⟨start, left, right, tail, seam, hpiece, hleft, hright, rfl, rfl⟩ := inside
  refine ⟨gap ++ (token.toList ++ start), left, right, tail, .token closed seam, hpiece, hleft,
    hright, ?_, rfl⟩
  simp

/-- A text begins with a gap that is closed, and what is behind it has none, or is a comment that
goes on to the end. -/
theorem exists_closed_gap (text : List Char) : ∃ closed rest, text = closed ++ rest ∧ IsGap closed ∧
    (gapOf rest = [] ∨ ∃ letters, '\n' ∉ letters ∧ rest = '/' :: '/' :: letters) := by
  by_cases hgap : gapOf text = []
  · exact ⟨[], text, rfl, .nil, Or.inl hgap⟩
  · rcases gap_opens hgap with ⟨c, more, rfl, hspace⟩ | ⟨more, rfl⟩
    · obtain ⟨closed, rest, hparts, hclosed, hend⟩ := exists_closed_gap more
      exact ⟨c :: closed, rest, congrArg (c :: ·) hparts, .blank hspace hclosed, hend⟩
    · -- the comment takes the rest of its line, and there may be no other line
      obtain ⟨letters, tail, rfl, hline, htail⟩ := exists_line more
      cases tail with
      | nil =>
        refine ⟨[], _, rfl, .nil, Or.inr ⟨letters, hline, ?_⟩⟩
        rw [List.append_nil]
      | cons c tail =>
        obtain rfl : c = '\n' := htail c rfl
        obtain ⟨closed, rest, hparts, hclosed, hend⟩ := exists_closed_gap tail
        refine ⟨_, rest, ?_, .comment hline hclosed, hend⟩
        rw [hparts]
        simp
termination_by text.length
decreasing_by all_goals simp_all <;> omega

/-- A comment that goes on to the end is all of the text. -/
theorem gap_of_comment (line : '\n' ∉ letters) :
    gapOf ('/' :: '/' :: letters) = '/' :: '/' :: letters ∧
      pastGap ('/' :: '/' :: letters) = [] := by
  have hseam : Seam [] ('/' :: '/' :: letters) [] := .behindComment .nil line (by simp)
  have hgap : gapOf ('/' :: '/' :: letters ++ []) = '/' :: '/' :: letters ++ [] :=
    hseam.gapOf_append .nil
  have hpast : pastGap ('/' :: '/' :: letters ++ []) = [] := hseam.pastGap_append .nil
  rw [List.append_nil] at hgap hpast
  exact ⟨hgap, hpast⟩

/-- A gap in front of something else is over there. -/
theorem isGap_gapOf (h : pastGap text ≠ []) : IsGap (gapOf text) := by
  obtain ⟨closed, rest, rfl, hclosed, hnone | ⟨letters, line, rfl⟩⟩ := exists_closed_gap text
  · rwa [hclosed.gapOf_append, hnone, List.append_nil]
  · rw [hclosed.pastGap_append] at h
    exact absurd (gap_of_comment line).2 h

/-- A place stays what it is when a gap is put in front of all. -/
theorem Place.gap_append (closed : IsGap gap) (place : Place tokens front behind) :
    Place tokens (gap ++ front) behind := by
  cases place with
  | seam parts seam => exact .seam parts (seam.gap_append closed)
  | inToken parts inside => exact .inToken parts (inside.gap_append closed)
  | inComment parts line inside => exact .inComment parts line (inside.gap_append closed)

theorem Place.behind_token (closed : IsGap gap) (place : Place tokens front behind) :
    Place (token :: tokens) (gap ++ (token.toList ++ front)) behind := by
  cases place with
  | seam parts seam => exact .seam (congrArg (token :: ·) parts) (.token closed seam)
  | inToken parts inside =>
    exact .inToken (congrArg (token :: ·) parts) (inside.behind_token closed)
  | inComment parts line inside =>
    exact .inComment (congrArg (token :: ·) parts) line (inside.behind_token closed)

theorem place_start : Place tokens [] behind := .seam rfl (.between .nil)

/-- In a comment there is a seam at either end and none between. -/
theorem place_of_comment {right tail : List Char} (line : '\n' ∉ letters)
    (ended : ∀ c ∈ tail.head?, c = '\n') (parts : '/' :: '/' :: letters = front ++ right) :
    Place tokens front (right ++ tail) := by
  by_cases hfront : front = []
  · rw [hfront]
    exact place_start
  · by_cases hright : right = []
    · rw [hright, List.append_nil] at parts
      rw [hright, ← parts]
      exact .seam rfl (.behindComment .nil line ended)
    · exact .inComment rfl line
        ⟨[], front, right, tail, .between .nil, parts, hfront, hright, rfl, rfl⟩

/-- The places in a gap that is closed. -/
theorem IsGap.place {right tail : List Char} (h : IsGap gap) (parts : gap = front ++ right) :
    Place tokens front (right ++ tail) := by
  induction h generalizing front with
  | nil =>
    obtain rfl := (List.append_eq_nil_iff.1 parts.symm).1
    exact place_start
  | @blank c rest blank more ih =>
    cases front with
    | nil => exact place_start
    | cons d front =>
      obtain ⟨rfl, hrest⟩ := List.cons.inj parts
      exact (ih hrest).gap_append (.blank blank .nil)
  | @comment letters rest line more ih =>
    have hnewline : ∀ c ∈ ('\n' :: rest ++ tail).head?, c = '\n' := by
      rintro c ⟨⟩
      rfl
    -- the line feed belongs to the gap, but the place in front of it is still one of the comment
    have hparts : ('/' :: '/' :: letters) ++ '\n' :: rest = front ++ right := parts
    rcases List.append_eq_append_iff.1 hparts with ⟨beyond, rfl, hbeyond⟩ | ⟨within, hwithin, rfl⟩
    · cases beyond with
      | nil =>
        obtain rfl : '\n' :: rest = right := hbeyond
        rw [List.append_nil]
        have hplace : Place tokens ('/' :: '/' :: letters) ([] ++ ('\n' :: rest ++ tail)) :=
          place_of_comment line hnewline (List.append_nil _).symm
        exact hplace
      | cons c beyond =>
        obtain ⟨rfl, hrest⟩ := List.cons.inj hbeyond
        have hmore := (ih hrest).gap_append (.comment line .nil)
        simpa using hmore
    · rw [List.append_assoc]
      exact place_of_comment line hnewline hwithin

/-- The places in the gap that a text begins with. -/
theorem place_of_gapOf {right : List Char} (tokens : List String)
    (parts : gapOf text = front ++ right) : Place tokens front (right ++ pastGap text) := by
  obtain ⟨closed, rest, rfl, hclosed, hend⟩ := exists_closed_gap text
  rw [hclosed.gapOf_append] at parts
  rw [hclosed.pastGap_append]
  rcases hend with hnone | ⟨letters, line, rfl⟩
  · rw [hnone, List.append_nil] at parts
    exact hclosed.place parts
  · obtain ⟨hgap, hpast⟩ := gap_of_comment line
    rw [hgap] at parts
    rw [hpast]
    rcases List.append_eq_append_iff.1 parts with ⟨beyond, rfl, hbeyond⟩ | ⟨within, hwithin, rfl⟩
    · exact (place_of_comment line (by simp) hbeyond).gap_append hclosed
    · rw [List.append_assoc]
      exact hclosed.place hwithin

/-- Every place in a text with tokens is between two of them, or inside a token or a comment. -/
theorem Laid.place (laid : Laid tokens (front ++ behind)) : Place tokens front behind := by
  generalize htext : front ++ behind = text at laid
  induction laid generalizing front with
  | @finished text finished =>
    have hparts := gapOf_append_pastGap text
    rw [finished, List.append_nil] at hparts
    have hplace := place_of_gapOf [] (hparts.trans htext.symm)
    rwa [finished, List.append_nil] at hplace
  | @token token tokens text rest solid begins more ih =>
    have hclosed : IsGap (gapOf text) := by
      refine isGap_gapOf ?_
      obtain ⟨first, letters, hletters, -⟩ := solid
      rw [begins, hletters]
      exact List.cons_ne_nil _ _
    -- the place is in the gap, in the token, or behind the token, where the others are
    have hparts := (gapOf_append_pastGap text).trans htext.symm
    rcases List.append_eq_append_iff.1 hparts with ⟨beyond, rfl, hbeyond⟩ | ⟨within, hwithin, rfl⟩
    · rw [begins] at hbeyond
      rcases List.append_eq_append_iff.1 hbeyond with ⟨last, rfl, hlast⟩ | ⟨within, hwithin, rfl⟩
      · exact (ih hlast.symm).behind_token hclosed
      · by_cases hbeyond : beyond = []
        · rw [hbeyond, List.append_nil]
          exact .seam rfl (.between hclosed)
        · by_cases hlast : within = []
          · rw [hlast, List.append_nil] at hwithin
            rw [hlast, ← hwithin, ← List.append_nil token.toList]
            exact place_start.behind_token hclosed
          · exact .inToken rfl ⟨gapOf text, beyond, within, rest, .between hclosed, hwithin,
              hbeyond, hlast, rfl, rfl⟩
    · exact place_of_gapOf (token :: tokens) hwithin

end Linkage.Script
