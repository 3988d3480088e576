import Linkage.Script.Grammar
import Linkage.Script.Printing

/-!
# Rows of tokens

A text written as tokens with single spaces between them is read token by token. `Rule.Reads` says
that a rule reads a row of tokens in front of another row, and there is one lemma for each way of
putting rules together. Where a part is left out the rule has to refuse what follows, which is what
`Rule.Refuses` says.

A word has no boundary and a choice is never taken back, so two words can be told apart only when
neither begins with the other (`Unlike`). The words of one choice are all of this kind.
-/

namespace Linkage.Script

/-! ## Texts of rows -/

/-- Whether a text begins with a character that no gap runs over. -/
def Solid (letters : List Char) : Prop :=
  ∃ first rest, letters = first :: rest ∧ isSpace first = false ∧ first ≠ '/'

theorem Solid.append {letters : List Char} (h : Solid letters) (rest : List Char) :
    Solid (letters ++ rest) := by
  obtain ⟨first, others, rfl, hfirst⟩ := h
  exact ⟨first, others ++ rest, rfl, hfirst⟩

instance : DecidablePred Solid
  | [] => isFalse (by rintro ⟨_, _, h, -⟩; cases h)
  | first :: rest => decidable_of_iff (isSpace first = false ∧ first ≠ '/')
    ⟨fun h => ⟨first, rest, rfl, h⟩, by rintro ⟨_, _, h, hfirst⟩; cases h; exact hfirst⟩

/-- Whether every token of a row ends the gap in front of it. -/
def SolidRow (tokens : List String) : Prop := ∀ token ∈ tokens, Solid token.toList

theorem SolidRow.append {tokens behind : List String} (h : SolidRow tokens)
    (hbehind : SolidRow behind) : SolidRow (tokens ++ behind) :=
  List.forall_mem_append.2 ⟨h, hbehind⟩

theorem solidRow_nil : SolidRow [] := List.forall_mem_nil _

theorem solidRow_singleton {token : String} (h : Solid token.toList) : SolidRow [token] :=
  List.forall_mem_singleton.2 h

/-- Tokens with a space in front of each. -/
def spaced (tokens : List String) : List Char := tokens.flatMap fun token => ' ' :: token.toList

/-- Tokens with a space between each two. -/
def opened : List String → List Char
  | [] => []
  | token :: rest => token.toList ++ spaced rest

/-- What is left in front of a row: the row, with a space before it or without. -/
inductive Remains (behind : List String) : List Char → Prop where
  | withSpace : Remains behind (spaced behind)
  | bare : Remains behind (opened behind)

theorem spaced_cons (token : String) (rest : List String) :
    spaced (token :: rest) = ' ' :: opened (token :: rest) := by
  simp [spaced, opened]

theorem opened_append {front : List String} (h : front ≠ []) (behind : List String) :
    opened (front ++ behind) = opened front ++ spaced behind := by
  cases front with
  | nil => exact absurd rfl h
  | cons token rest => simp [opened, spaced]

/-- The text of a row is its tokens with single spaces between them. -/
theorem toList_intercalate_space (tokens : List String) :
    (" ".intercalate tokens).toList = opened tokens := by
  rw [String.toList_intercalate]
  induction tokens with
  | nil => rfl
  | cons token rest ih =>
    cases rest with
    | nil => simp [opened, spaced]
    | cons next rest =>
      rw [List.map_cons, List.map_cons, List.intercalate_cons_cons, ← List.map_cons, ih,
        List.append_assoc]
      rw [opened.eq_def (token :: next :: rest)]
      exact congrArg (token.toList ++ ·) (spaced_cons next rest).symm

/-- A gap runs over a blank. -/
theorem splitGap_of_space {c : Char} (h : isSpace c = true) (rest : List Char) :
    splitGap false (c :: rest) = (c :: (splitGap false rest).1, (splitGap false rest).2) := by
  rw [splitGap]
  · rw [if_pos h]
    rfl
  · -- a slash is no blank, so no comment opens here
    rintro _ rfl
    cases h

/-- A gap ends where a solid text begins. -/
theorem splitGap_of_solid {text : List Char} (h : Solid text) :
    splitGap false text = ([], text) := by
  obtain ⟨first, rest, rfl, hspace, hslash⟩ := h
  -- no comment opens here, whatever the second character is
  rw [splitGap]
  · rw [hspace]
    rfl
  · rintro _ rfl
    exact absurd rfl hslash

theorem splitGap_opened {behind : List String} (h : SolidRow behind) :
    splitGap false (opened behind) = ([], opened behind) := by
  cases behind with
  | nil => rfl
  | cons token rest => exact splitGap_of_solid ((h token List.mem_cons_self).append _)

/-- A single space is all that a gap passes over in front of a solid token. -/
theorem splitGap_spaced {token : String} {rest : List String}
    (h : SolidRow (token :: rest)) :
    splitGap false (spaced (token :: rest)) = ([' '], opened (token :: rest)) := by
  rw [spaced_cons, splitGap_of_space rfl, splitGap_opened h]

/-- Behind a gap the row begins with a token. -/
theorem Remains.outcome_gap {behind : List String} {left : List Char} (h : Remains behind left)
    (hsolid : SolidRow behind) :
    ∃ between, (Rule.gap left).outcome = some (between, opened behind) := by
  cases h with
  | bare => exact ⟨[], congrArg some (splitGap_opened hsolid)⟩
  | withSpace =>
    cases behind with
    | nil => exact ⟨[], rfl⟩
    | cons token rest => exact ⟨[' '], congrArg some (splitGap_spaced hsolid)⟩

namespace Rule

variable {α β : Type}

/-- A rule reads a value off a row of tokens in front of another row. The tokens are solid if those
behind are, so that gaps end where they begin. -/
def Reads (rule : Rule α) (tokens : List String) (a : α) (behind : List String) : Prop :=
  SolidRow behind → SolidRow tokens ∧
    ∃ left, Remains behind left ∧ (rule (opened (tokens ++ behind))).outcome = some (a, left)

/-- A rule refuses a row of solid tokens. -/
def Refuses (rule : Rule α) (tokens : List String) : Prop :=
  SolidRow tokens → (rule (opened tokens)).outcome = none

variable {rule : Rule α} {tokens more behind : List String} {a : α}

theorem Reads.solid_append (h : rule.Reads tokens a behind)
    (hbehind : SolidRow behind) : SolidRow (tokens ++ behind) :=
  (h hbehind).1.append hbehind

/-! ## Rules made of rules -/

theorem Reads.named (h : rule.Reads tokens a behind) : rule.named.Reads tokens a behind := by
  intro hbehind
  obtain ⟨hsolid, left, hleft, houtcome⟩ := h hbehind
  exact ⟨hsolid, left, hleft, by rw [outcome_named, houtcome]⟩

theorem Refuses.named (h : rule.Refuses tokens) : rule.named.Refuses tokens := by
  intro hsolid
  rw [outcome_named, h hsolid]

/-- Two parts with a gap between them. -/
theorem Reads.bind_gap {next : α → Rule β} {b : β} (h : rule.Reads tokens a (more ++ behind))
    (hnext : (next a).Reads more b behind) :
    (rule >>= fun x => gap >>= fun _ => next x).Reads (tokens ++ more) b behind := by
  intro hbehind
  have hmore := hnext.solid_append hbehind
  obtain ⟨hsolid, middle, hmiddle, hfirst⟩ := h hmore
  obtain ⟨-, left, hleft, hlast⟩ := hnext hbehind
  obtain ⟨between, hgap⟩ := hmiddle.outcome_gap hmore
  refine ⟨hsolid.append (hnext hbehind).1, left, hleft, ?_⟩
  rw [List.append_assoc, outcome_bind, hfirst, Option.bind_some, outcome_bind, hgap,
    Option.bind_some, hlast]

theorem Reads.bind_pure {f : α → β} {b : β} (h : rule.Reads tokens a behind) (hvalue : f a = b) :
    (rule >>= fun x => pure (f x)).Reads tokens b behind := by
  intro hbehind
  obtain ⟨hsolid, left, hleft, houtcome⟩ := h hbehind
  refine ⟨hsolid, left, hleft, ?_⟩
  rw [outcome_bind, houtcome, Option.bind_some, outcome_pure, hvalue]

/-- A gap where a token begins is empty. -/
theorem Reads.after_gap (h : rule.Reads tokens a behind) :
    (gap >>= fun _ => rule).Reads tokens a behind := by
  intro hbehind
  obtain ⟨hsolid, left, hleft, houtcome⟩ := h hbehind
  obtain ⟨between, hgap⟩ := Remains.bare.outcome_gap (h.solid_append hbehind)
  refine ⟨hsolid, left, hleft, ?_⟩
  rw [outcome_bind, hgap, Option.bind_some, houtcome]

theorem Refuses.bind {next : α → Rule β} (h : rule.Refuses tokens) :
    (rule >>= next).Refuses tokens := by
  intro hsolid
  rw [outcome_bind, h hsolid, Option.bind_none]

/-- A rule refuses where what follows its first part and a gap does. -/
theorem Reads.refuses_bind_gap {next : α → List Char → Rule β} (h : rule.Reads tokens a behind)
    (hnext : ∀ between, (next a between).Refuses behind) :
    (rule >>= fun x => gap >>= fun between => next x between).Refuses (tokens ++ behind) := by
  intro hsolid
  have hbehind := (List.forall_mem_append.1 hsolid).2
  obtain ⟨-, left, hleft, houtcome⟩ := h hbehind
  obtain ⟨between, hgap⟩ := hleft.outcome_gap hbehind
  rw [outcome_bind, houtcome, Option.bind_some, outcome_bind, hgap, Option.bind_some,
    hnext between hbehind]

theorem Reads.orElse_left {other : Rule α} (h : rule.Reads tokens a behind) :
    (Rule.orElse rule other).Reads tokens a behind := by
  intro hbehind
  obtain ⟨hsolid, left, hleft, houtcome⟩ := h hbehind
  refine ⟨hsolid, left, hleft, ?_⟩
  rw [outcome_orElse, houtcome, Option.some_or]

theorem Reads.orElse_right {other : Rule α} (hrefuses : other.Refuses (tokens ++ behind))
    (h : rule.Reads tokens a behind) : (Rule.orElse other rule).Reads tokens a behind := by
  intro hbehind
  obtain ⟨hsolid, left, hleft, houtcome⟩ := h hbehind
  refine ⟨hsolid, left, hleft, ?_⟩
  rw [outcome_orElse, hrefuses (h.solid_append hbehind), Option.none_or, houtcome]

theorem Refuses.orElse {other : Rule α} (h : rule.Refuses tokens) (hother : other.Refuses tokens) :
    (Rule.orElse rule other).Refuses tokens := by
  intro hsolid
  rw [outcome_orElse, h hsolid, Option.none_or, hother hsolid]

theorem Reads.optional (h : rule.Reads tokens a behind) :
    rule.optional.Reads tokens (some a) behind :=
  (h.bind_pure rfl).orElse_left

/-- A part that is left out takes no tokens. -/
theorem Refuses.optional (h : rule.Refuses behind) : rule.optional.Reads [] none behind := by
  intro hbehind
  refine ⟨solidRow_nil, opened behind, .bare, ?_⟩
  rw [Rule.optional, outcome_orElse, List.nil_append, h.bind hbehind, Option.none_or]
  rfl

end Rule

/-! ## Repetitions -/

/-- A row of tokens is at most as long as anything it may be left as. -/
theorem Remains.length_opened_le {behind : List String} {left : List Char}
    (h : Remains behind left) : (opened behind).length ≤ left.length := by
  cases h with
  | bare => exact Nat.le_refl _
  | withSpace =>
    cases behind with
    | nil => exact Nat.le_refl _
    | cons token rest => simp [spaced_cons]

theorem Remains.length_le_spaced {behind : List String} {left : List Char}
    (h : Remains behind left) : left.length ≤ (spaced behind).length := by
  cases h with
  | withSpace => exact Nat.le_refl _
  | bare =>
    cases behind with
    | nil => exact Nat.le_refl _
    | cons token rest => simp [spaced_cons]

/-- What is left behind a solid token is shorter than anything left in front of it. -/
theorem Remains.length_lt {tokens behind : List String} {left after : List Char}
    (hne : tokens ≠ []) (hsolid : SolidRow tokens)
    (hleft : Remains (tokens ++ behind) left) (hafter : Remains behind after) :
    after.length < left.length := by
  have hletter : 0 < (opened tokens).length := by
    cases tokens with
    | nil => exact absurd rfl hne
    | cons token rest =>
      obtain ⟨first, letters, hletters, -⟩ := hsolid token List.mem_cons_self
      simp [opened, hletters]
  have hlong := hleft.length_opened_le
  have hshort := hafter.length_le_spaced
  rw [opened_append hne, List.length_append] at hlong
  omega

namespace Rule

variable {α β : Type} {rule : Rule α} {tokens more behind : List String} {a : α}

/-- Rows read one after another, from wherever the token before them ended. -/
theorem outcome_repeated_rows {row : α → List String} {as : List α} (hrow : ∀ a ∈ as, row a ≠ [])
    (hitem : ∀ a rest, (a :: rest) <:+ as → rule.Reads (row a) a (rest.flatMap row ++ behind))
    (hstop : rule.Refuses behind) (hbehind : SolidRow behind) :
    SolidRow (as.flatMap row) ∧
      ∀ left, Remains (as.flatMap row ++ behind) left → ∃ last, Remains behind last ∧
        (repeated (gap >>= fun _ => rule) left).outcome = some (as, last) := by
  induction as with
  | nil =>
    refine ⟨solidRow_nil, fun left hleft => ⟨left, hleft, ?_⟩⟩
    obtain ⟨between, hgap⟩ := hleft.outcome_gap hbehind
    apply outcome_repeated_of_none
    rw [outcome_bind, hgap, Option.bind_some]
    exact hstop hbehind
  | cons a as ih =>
    obtain ⟨hsolid, hrows⟩ := ih (fun b hb => hrow b (List.mem_cons_of_mem _ hb))
      fun b rest hsuffix => hitem b rest (hsuffix.trans (List.suffix_cons a as))
    have hrest := hsolid.append hbehind
    obtain ⟨hfirst, after, hafter, houtcome⟩ := hitem a as (List.suffix_refl _) hrest
    rw [List.flatMap_cons]
    refine ⟨hfirst.append hsolid, fun left hleft => ?_⟩
    rw [List.append_assoc] at hleft
    obtain ⟨last, hlast, hmore⟩ := hrows after hafter
    refine ⟨last, hlast, ?_⟩
    -- the item takes at least one character, so the repetition goes on
    have hless := hleft.length_lt (hrow a List.mem_cons_self) hfirst hafter
    obtain ⟨between, hgap⟩ := hleft.outcome_gap (hfirst.append hrest)
    have hstep : ((gap >>= fun _ => rule) left).outcome = some (a, after) := by
      rw [outcome_bind, hgap, Option.bind_some, houtcome]
    rw [outcome_repeated_of_some hstep hless, hmore]
    rfl

/-- Rows of tokens are read as far as they go, where the rule refuses what follows them. -/
theorem reads_many {row : α → List String} {as : List α} (hrow : ∀ a ∈ as, row a ≠ [])
    (hitem : ∀ a rest, (a :: rest) <:+ as → rule.Reads (row a) a (rest.flatMap row ++ behind))
    (hstop : rule.Refuses behind) : rule.many.Reads (as.flatMap row) as behind := by
  intro hbehind
  cases as with
  | nil =>
    obtain ⟨hsolid, left, hleft, hnone⟩ := hstop.optional hbehind
    refine ⟨hsolid, left, hleft, ?_⟩
    rw [many, List.flatMap_nil, outcome_bind, hnone, Option.bind_some]
    rfl
  | cons a as =>
    obtain ⟨hsolid, hrows⟩ := outcome_repeated_rows
      (fun b hb => hrow b (List.mem_cons_of_mem a hb))
      (fun b rest hsuffix => hitem b rest (hsuffix.trans (List.suffix_cons a as))) hstop hbehind
    have hread := (hitem a as (List.suffix_refl _)).optional
    obtain ⟨hfirst, after, hafter, houtcome⟩ := hread (hsolid.append hbehind)
    obtain ⟨last, hlast, hmore⟩ := hrows after hafter
    rw [List.flatMap_cons]
    refine ⟨hfirst.append hsolid, last, hlast, ?_⟩
    rw [many, List.append_assoc, outcome_bind, houtcome, Option.bind_some,
      outcome_bind, hmore]
    rfl

end Rule

/-! ## Words -/

/-- Neither of two words begins with the other. -/
def Unlike (word other : String) : Prop :=
  ¬ word.toList <+: other.toList ∧ ¬ other.toList <+: word.toList

instance (word other : String) : Decidable (Unlike word other) :=
  inferInstanceAs (Decidable (_ ∧ _))

namespace Rule

variable {α β : Type} {rule : Rule α} {tokens more behind : List String} {a : α}

theorem outcome_word (letters : String) (behind : List String) :
    (word letters (opened (letters :: behind))).outcome = some ((), spaced behind) := by
  simp [word, ofScan, opened]

theorem reads_word {letters : String} (h : Solid letters.toList) :
    (word letters).Reads [letters] () behind :=
  fun _ => ⟨solidRow_singleton h, spaced behind, .withSpace, outcome_word letters behind⟩

theorem refuses_word {letters token : String} (h : Unlike letters token) :
    (word letters).Refuses (token :: behind) := by
  have hbegins : ¬ letters.toList <+: opened (token :: behind) := by
    intro hletters
    rcases List.prefix_or_prefix_of_prefix hletters (List.prefix_append _ _) with hle | hle
    · exact h.1 hle
    · exact h.2 hle
  intro _
  simp [word, ofScan, hbegins]

theorem refuses_word_nil {letters : String} (h : letters.toList ≠ []) :
    (word letters).Refuses [] := by
  intro _
  simp [word, ofScan, opened, h]

/-- A choice takes the word that stands there, since no other word can begin there. -/
theorem reads_choice {words : List (String × α)} {letters : String} (hsolid : Solid letters.toList)
    (hunlike : words.Pairwise fun entry other => Unlike entry.1 other.1)
    (hmem : (letters, a) ∈ words) : (choice words).Reads [letters] a behind := by
  induction words with
  | nil => cases hmem
  | cons entry words ih =>
    obtain ⟨hfirst, hothers⟩ := List.pairwise_cons.1 hunlike
    rcases List.mem_cons.1 hmem with rfl | hmem
    · exact ((reads_word hsolid).bind_pure rfl).orElse_left
    · refine (ih hothers hmem).orElse_right ?_
      exact (refuses_word (hfirst _ hmem)).bind

/-- A choice refuses a token that none of its words is like. -/
theorem refuses_choice {words : List (String × α)} {token : String}
    (h : ∀ entry ∈ words, Unlike entry.1 token) : (choice words).Refuses (token :: behind) := by
  induction words with
  | nil => exact fun _ => rfl
  | cons entry words ih =>
    obtain ⟨hfirst, hothers⟩ := List.forall_mem_cons.1 h
    exact (refuses_word hfirst).bind.orElse (ih hothers)

/-! ## Lists with commas -/

theorem withCommas_cons {row : α → List String} (a : α) (as : List α) :
    withCommas ((a :: as).map row) = row a ++ as.flatMap fun b => "," :: row b := by
  induction as generalizing a with
  | nil => simp [withCommas]
  | cons b as ih =>
    rw [List.map_cons, List.map_cons, withCommas, ← List.map_cons, ih, List.flatMap_cons,
      List.cons_append]
    rintro ⟨⟩

/-- Rows with a comma between each two are read as far as they go. -/
theorem reads_commaSeparated {row : α → List String} {as : List α}
    (hitem : ∀ b rest, (b :: rest) <:+ (a :: as) →
      rule.Reads (row b) b (rest.flatMap (fun c => "," :: row c) ++ behind))
    (hstop : (word ",").Refuses behind) :
    (commaSeparated rule).Reads (withCommas ((a :: as).map row)) (a :: as) behind := by
  have hcomma : Solid ",".toList := by decide
  have hothers : (many (word "," >>= fun _ => gap >>= fun _ => rule)).Reads
      (as.flatMap fun c => "," :: row c) as behind := by
    refine reads_many (fun _ _ => List.cons_ne_nil _ _) ?_ hstop.bind
    intro b rest hsuffix
    exact (reads_word hcomma).bind_gap (hitem b rest (hsuffix.trans (List.suffix_cons a as)))
  rw [withCommas_cons]
  exact (hitem a as (List.suffix_refl _)).bind_gap (hothers.bind_pure rfl)

end Rule

/-! ## Identifiers, paths and quoted texts -/

/-- A character that a name may begin with is no space and opens no comment. -/
theorem solid_of_isIdent {name : List Char} (h : IsIdent name) : Solid name := by
  obtain ⟨first, rest, rfl, hfirst, -⟩ := h
  refine ⟨first, rest, rfl, ?_⟩
  rcases hfirst with halpha | rfl | rfl
  · have hother : ∀ c : Char, c.isAlpha = false → first ≠ c := by
      rintro c hc rfl
      rw [halpha] at hc
      cases hc
    refine ⟨?_, hother '/' rfl⟩
    simp [isSpace, hother ' ' rfl, hother '\t' rfl, hother '\r' rfl, hother '\n' rfl]
  · decide
  · decide

/-- A single identifier is a path. -/
theorem isPath_of_isIdent {name : List Char} (h : IsIdent name) : IsPath name :=
  ⟨[name], List.cons_ne_nil _ _, List.forall_mem_singleton.2 h, (List.intercalate_singleton).symm⟩

theorem solid_of_isPath {name : List Char} (h : IsPath name) : Solid name := by
  obtain ⟨idents, hne, hidents, rfl⟩ := h
  cases idents with
  | nil => exact absurd rfl hne
  | cons ident idents =>
    have hident := solid_of_isIdent (hidents ident List.mem_cons_self)
    cases idents with
    | nil =>
      rw [List.intercalate_singleton]
      exact hident
    | cons next others =>
      rw [List.intercalate_cons_cons, List.append_assoc]
      exact hident.append _

/-- An identifier in front of a path makes a longer path. -/
theorem isPath_cons {ident path : List Char} (h : IsIdent ident) (hpath : IsPath path) :
    IsPath (ident ++ '.' :: path) := by
  obtain ⟨idents, hne, hidents, rfl⟩ := hpath
  refine ⟨ident :: idents, List.cons_ne_nil _ _, List.forall_mem_cons.2 ⟨h, hidents⟩, ?_⟩
  cases idents with
  | nil => exact absurd rfl hne
  | cons next others =>
    rw [List.intercalate_cons_cons, List.append_assoc]
    rfl

/-- A text in front of which an identifier ends. -/
def EndsIdent (text : List Char) : Prop := ∀ c ∈ text.head?, isIdentRest c = false

theorem scanIdent_of_isIdent {name rest : List Char} (h : IsIdent name) (hrest : EndsIdent rest) :
    scanIdent (name ++ rest) = some (name, rest) := by
  obtain ⟨first, letters, rfl, hfirst, hletters⟩ := h
  have hstart : isIdentStart first = true := by
    simpa [isIdentStart, or_assoc] using hfirst
  have hall : ∀ c ∈ letters, isIdentRest c = true := by
    intro c hc
    simpa [isIdentRest, or_assoc] using hletters c hc
  have hstop : rest.takeWhile isIdentRest = [] ∧ rest.dropWhile isIdentRest = rest := by
    cases rest with
    | nil => exact ⟨rfl, rfl⟩
    | cons c rest =>
      have hc : isIdentRest c = false := hrest c rfl
      exact ⟨List.takeWhile_cons_of_neg (by simp [hc]), List.dropWhile_cons_of_neg (by simp [hc])⟩
  rw [List.cons_append, scanIdent, if_pos hstart, List.takeWhile_append_of_pos hall,
    List.dropWhile_append_of_pos hall, hstop.1, hstop.2, List.append_nil]

/-- What is scanned as an identifier is one, and ends there. -/
theorem isIdent_of_scanIdent {text name rest : List Char} (h : scanIdent text = some (name, rest)) :
    IsIdent name ∧ EndsIdent rest := by
  unfold scanIdent at h
  split at h
  · cases h
  · next first others =>
    split at h
    · next hstart =>
      cases h
      refine ⟨⟨first, _, rfl, ?_, fun c hc => ?_⟩, fun c hc => ?_⟩
      · simpa [isIdentStart, or_assoc] using hstart
      · have hall := List.all_eq_true.1 List.all_takeWhile c hc
        simpa [isIdentRest, or_assoc] using hall
      · have hstop := List.head?_dropWhile_not isIdentRest others
        rw [hc] at hstop
        simpa using hstop
    · cases h

/-- What is scanned as a path is one, and its last identifier ends there. -/
theorem isPath_of_scanPath {text name rest : List Char} (h : scanPath text = some (name, rest)) :
    IsPath name ∧ EndsIdent rest ∧ text = name ++ rest := by
  fun_induction scanPath text generalizing name rest with
  | case1 text hnone => cases h
  | case2 text first behind hfirst more last hmore ih =>
    cases h
    obtain ⟨hpath, hends, rfl⟩ := ih hmore
    refine ⟨isPath_cons (isIdent_of_scanIdent hfirst).1 hpath, hends, ?_⟩
    rw [← scanIdent_append hfirst]
    simp
  | case3 text first behind hfirst _ _ =>
    cases h
    obtain ⟨hident, hends⟩ := isIdent_of_scanIdent hfirst
    exact ⟨isPath_of_isIdent hident, hends, (scanIdent_append hfirst).symm⟩
  | case4 text first behind _ hfirst =>
    cases h
    obtain ⟨hident, hends⟩ := isIdent_of_scanIdent hfirst
    exact ⟨isPath_of_isIdent hident, hends, (scanIdent_append hfirst).symm⟩

theorem scanPath_of_dot {text name rest more behind : List Char}
    (h : scanIdent text = some (name, '.' :: rest)) (hmore : scanPath rest = some (more, behind)) :
    scanPath text = some (name ++ '.' :: more, behind) := by
  rw [scanPath]
  split
  · next hnone =>
    rw [h] at hnone
    cases hnone
  · next hsome =>
    rw [h] at hsome
    cases hsome
    rw [hmore]
  · next hother hsome =>
    rw [h] at hsome
    cases hsome
    exact absurd rfl (hother rest)

theorem scanPath_of_no_dot {text name rest : List Char} (h : scanIdent text = some (name, rest))
    (hdot : rest.head? ≠ some '.') : scanPath text = some (name, rest) := by
  rw [scanPath]
  split
  · next hnone =>
    rw [h] at hnone
    cases hnone
  · next hsome =>
    rw [h] at hsome
    cases hsome
    exact absurd rfl hdot
  · next hsome =>
    rw [h] at hsome
    cases hsome
    rfl

/-- A path is read to its end in front of anything that neither goes on with its last identifier
nor begins with a dot. -/
theorem scanPath_of_isPath {name rest : List Char} (h : IsPath name) (hrest : EndsIdent rest)
    (hdot : rest.head? ≠ some '.') : scanPath (name ++ rest) = some (name, rest) := by
  obtain ⟨idents, hne, hidents, rfl⟩ := h
  induction idents with
  | nil => exact absurd rfl hne
  | cons ident idents ih =>
    obtain ⟨hident, hothers⟩ := List.forall_mem_cons.1 hidents
    cases idents with
    | nil =>
      rw [List.intercalate_singleton]
      exact scanPath_of_no_dot (scanIdent_of_isIdent hident hrest) hdot
    | cons next others =>
      have hmore := ih (List.cons_ne_nil _ _) hothers
      have hends : EndsIdent ('.' :: (['.'].intercalate (next :: others) ++ rest)) := by
        rintro c ⟨⟩
        rfl
      rw [List.intercalate_cons_cons, List.append_assoc, List.append_assoc, List.singleton_append,
        scanPath_of_dot (scanIdent_of_isIdent hident hends) hmore, List.append_assoc]
      rfl

theorem scanQuoted_of_unquoted {text rest : List Char} (h : '"' ∉ text) :
    scanQuoted ('"' :: (text ++ '"' :: rest)) = some (text, rest) := by
  have hall : ∀ c ∈ text, (c != '"') = true := by
    rintro c hc
    exact bne_iff_ne.2 fun heq => h (heq ▸ hc)
  rw [scanQuoted, List.dropWhile_append_of_pos hall, List.takeWhile_append_of_pos hall]
  simp

/-- Behind a token the text is over or goes on with a space, where every name ends. -/
theorem endsIdent_spaced (behind : List String) : EndsIdent (spaced behind) := by
  cases behind with
  | nil => rintro c ⟨⟩
  | cons token rest =>
    rw [spaced_cons]
    rintro c ⟨⟩
    rfl

theorem head?_spaced_ne_dot (behind : List String) : (spaced behind).head? ≠ some '.' := by
  cases behind with
  | nil => decide
  | cons token rest =>
    rw [spaced_cons, List.head?_cons]
    decide

namespace Rule

variable {behind : List String} {name text : String}

/-- A scan that splits a solid token off any row reads the token. -/
theorem reads_ofScan {scan : List Char → Option (List Char × List Char)} {token : String}
    (hsolid : Solid token.toList)
    (h : scan (token.toList ++ spaced behind) = some (text.toList, spaced behind)) :
    (named (ofScan scan) >>= fun found => value (String.ofList found)).Reads [token] text
      behind := by
  intro _
  refine ⟨solidRow_singleton hsolid, spaced behind, .withSpace, ?_⟩
  rw [outcome_bind, outcome_named, List.singleton_append, opened, ofScan, h, Option.bind_some,
    String.ofList_toList]
  rfl

theorem reads_ident (h : IsIdent name.toList) : ident.Reads [name] name behind :=
  reads_ofScan (solid_of_isIdent h) (scanIdent_of_isIdent h (endsIdent_spaced behind))

theorem reads_path (h : IsPath name.toList) : path.Reads [name] name behind :=
  reads_ofScan (solid_of_isPath h)
    (scanPath_of_isPath h (endsIdent_spaced behind) (head?_spaced_ne_dot behind))

theorem reads_quoted (h : '"' ∉ text.toList) :
    quoted.Reads ["\"" ++ text ++ "\""] text behind := by
  have hletters : ("\"" ++ text ++ "\"").toList = '"' :: (text.toList ++ ['"']) := by
    simp
  refine reads_ofScan ⟨'"', _, hletters, rfl, by decide⟩ ?_
  rw [hletters, List.cons_append, List.append_assoc, List.singleton_append]
  exact scanQuoted_of_unquoted h

end Rule

end Linkage.Script
