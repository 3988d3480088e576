import Linkage.Proofs.Layouts
import Linkage.Proofs.ParsedUnits

/-!
# Reading a text again

A rule that reads a value off a text reads it again off every text that is the same but for the
gaps. `Rule.Rereads` says so of one run, with the row of tokens that the run has read, and
`Rule.Spells` of all runs of a rule. There is one lemma for each way of putting rules together.

Where a part is left out, or a choice comes to its second form, the rule has refused the first text,
and it has to refuse the second one as well. It does when the words it may begin with (`Rule.Opens`)
are unlike the words that follow (`Ahead`): such a word at the beginning of the second text would be
at that of the first. So a rule is followed under a condition on what comes behind it, and hands a
condition on to what comes in front.
-/

namespace Linkage.Script

/-! ## What a text begins with -/

/-- Whether a text is over or begins with one of several words. -/
def Ahead (words : List String) (text : List Char) : Prop :=
  text = [] ∨ ∃ word ∈ words, word.toList <+: text

/-- Nothing is known of what a text begins with. -/
def Any (_ : List Char) : Prop := True

/-- Whether each of several words is clean and unlike each of several others. -/
def Apart (words others : List String) : Prop :=
  ∀ word ∈ words, Clean word.toList ∧ word.toList ≠ [] ∧ ∀ other ∈ others, Unlike word other

instance (words others : List String) : Decidable (Apart words others) :=
  inferInstanceAs (Decidable (∀ word ∈ words, _ ∧ _ ∧ ∀ other ∈ others, Unlike word other))

variable {words others more : List String} {text text' rest : List Char} {tokens row : List String}

theorem Ahead.mono (h : Ahead words text) (hsub : words ⊆ others) : Ahead others text := by
  rcases h with rfl | ⟨word, hword, hbegins⟩
  · exact Or.inl rfl
  · exact Or.inr ⟨word, hsub hword, hbegins⟩

/-- A text does not begin with a word unlike those it may begin with. -/
theorem Ahead.not_begins (h : Ahead others text) (apart : Apart words others) {word : String}
    (hword : word ∈ words) : ¬ word.toList <+: text := by
  obtain ⟨-, hne, hunlike⟩ := apart word hword
  intro hbegins
  rcases h with rfl | ⟨other, hother, hbegins'⟩
  · exact hne (List.prefix_nil.1 hbegins)
  · rcases List.prefix_or_prefix_of_prefix hbegins hbegins' with hle | hle
    · exact (hunlike other hother).1 hle
    · exact (hunlike other hother).2 hle

/-- A name that ends in front of the first text ends in front of the second one. -/
theorem Relaid.endsIdent (h : Relaid tokens text text') (ends : EndsIdent text) :
    EndsIdent text' := by
  intro c hc
  cases hrest : isIdentRest c with
  | false => rfl
  | true =>
    -- a character that goes on with a name opens no gap, so it would stand in the first text too
    have hother : ∀ d, isIdentRest d = false → c ≠ d := by
      rintro d hd rfl
      rw [hrest] at hd
      cases hd
    have hspace : isSpace c = false := by
      simp [isSpace, hother ' ' rfl, hother '\t' rfl, hother '\r' rfl, hother '\n' rfl]
    have hhead := h.head?_of_clean ⟨hspace, hother '/' rfl⟩ hc
    exact hrest.symm.trans (ends c hhead)

namespace Rule

variable {α β : Type}

/-- Whether a rule only reads texts that begin with one of several words, if no gap is in front. -/
def Opens (rule : Rule α) (words : List String) : Prop :=
  ∀ text a rest, pastGap text = text → (rule text).outcome = some (a, rest) →
    ∃ word ∈ words, word.toList <+: text

/-- A run of a rule that has read a row of tokens. Any text that is alike, with these tokens and
those behind them, is read in the same way. -/
structure Rereads (alike : List String → List Char → List Char → Prop) (rule : Rule α)
    (row : List String) (a : α) (text rest : List Char) : Prop where
  shorter : rest.length + row.length ≤ text.length
  laid : ∀ tokens, Laid tokens rest → Laid (row ++ tokens) text
  again : ∀ tokens text', alike (row ++ tokens) text text' → ∃ rest',
    (rule text').outcome = some (a, rest') ∧ Relaid tokens rest rest' ∧
      rest'.length + row.length ≤ text'.length

/-- Whether every run of a rule, from where no gap is in front, reads a row of tokens that stands
for its value, given a condition on what comes behind it. A condition on the text itself follows. -/
def Spells (rule : Rule α) (before after : List Char → Prop) (rows : α → List String → Prop) :
    Prop :=
  ∀ text a rest, pastGap text = text → (rule text).outcome = some (a, rest) →
    after (pastGap rest) → before text ∧ ∃ row, rows a row ∧ rule.Rereads Abreast row a text rest

variable {rule other : Rule α} {a : α} {before after : List Char → Prop}
  {rows : α → List String → Prop} {outer : β → List String → Prop}

/-- A run of two rules, one after the other. -/
theorem exists_of_outcome_bind {next : α → Rule β} {b : β}
    (h : ((rule >>= next) text).outcome = some (b, rest)) :
    ∃ a behind, (rule text).outcome = some (a, behind) ∧
      (next a behind).outcome = some (b, rest) := by
  rw [outcome_bind] at h
  obtain ⟨⟨a, behind⟩, hfirst, hnext⟩ := Option.bind_eq_some_iff.1 h
  exact ⟨a, behind, hfirst, hnext⟩

/-! ## Where rules begin -/

theorem Opens.mono (h : rule.Opens words) (hsub : words ⊆ others) : rule.Opens others := by
  intro text a rest hpast hread
  obtain ⟨word, hword, hbegins⟩ := h text a rest hpast hread
  exact ⟨word, hsub hword, hbegins⟩

theorem Opens.named (h : rule.Opens words) : rule.named.Opens words := by
  intro text a rest hpast hread
  rw [outcome_named] at hread
  exact h text a rest hpast hread

theorem Opens.bind {next : α → Rule β} (h : rule.Opens words) : (rule >>= next).Opens words := by
  intro text b rest hpast hread
  obtain ⟨a, behind, hfirst, -⟩ := exists_of_outcome_bind hread
  exact h text a behind hpast hfirst

theorem Opens.orElse (h : rule.Opens words) (hother : other.Opens others) :
    (Rule.orElse rule other).Opens (words ++ others) := by
  intro text a rest hpast hread
  rw [outcome_orElse, Option.or_eq_some_iff] at hread
  rcases hread with hread | ⟨-, hread⟩
  · obtain ⟨word, hword, hbegins⟩ := h text a rest hpast hread
    exact ⟨word, List.mem_append_left others hword, hbegins⟩
  · obtain ⟨word, hword, hbegins⟩ := hother text a rest hpast hread
    exact ⟨word, List.mem_append_right words hword, hbegins⟩

/-- A part that may be left out begins as it would, or as what follows does. -/
theorem Opens.optional_bind_gap {next : Option α → Rule β} (h : rule.Opens words)
    (hnext : ∀ found, (next found).Opens others) :
    (rule.optional >>= fun found => gap >>= fun _ => next found).Opens (words ++ others) := by
  intro text b rest hpast hread
  rw [outcome_bind, Rule.optional, outcome_orElse, outcome_bind] at hread
  cases hfirst : (rule text).outcome with
  | some found =>
    obtain ⟨word, hword, hbegins⟩ := h text found.1 found.2 hpast hfirst
    exact ⟨word, List.mem_append_left others hword, hbegins⟩
  | none =>
    rw [hfirst] at hread
    obtain ⟨word, hword, hbegins⟩ := hnext none (pastGap text) b rest (pastGap_pastGap text) hread
    rw [hpast] at hbegins
    exact ⟨word, List.mem_append_right words hword, hbegins⟩

theorem opens_word (letters : String) : (word letters).Opens [letters] := by
  intro text a rest _ hread
  simp only [word, ofScan] at hread
  split at hread
  · next hbegins =>
    exact ⟨letters, List.mem_singleton_self _, List.isPrefixOf_iff_prefix.1 hbegins⟩
  · cases hread

theorem opens_choice (choices : List (String × α)) :
    (choice choices).Opens (choices.map Prod.fst) := by
  induction choices with
  | nil =>
    intro text a rest _ hread
    cases hread
  | cons entry choices ih => exact (opens_word entry.1).bind.orElse ih

/-- A rule that begins with words unlike those ahead refuses, also where gaps are put in. -/
theorem Opens.refuses (h : rule.Opens words) (apart : Apart words others)
    (ahead : Ahead others text) (abreast : Abreast tokens text text') :
    (rule text').outcome = none := by
  cases hread : (rule text').outcome with
  | none => rfl
  | some found =>
    obtain ⟨word, hword, hbegins⟩ := h text' found.1 found.2 abreast.pastGap_eq.2 hread
    exact absurd (abreast.begins (apart word hword).1 hbegins) (ahead.not_begins apart hword)

/-! ## Runs -/

variable {alike : List String → List Char → List Char → Prop} {row' : List String}
  {last : List Char}

theorem Rereads.named (h : rule.Rereads alike row a text rest) :
    rule.named.Rereads alike row a text rest := by
  refine ⟨h.shorter, h.laid, fun tokens text' halike => ?_⟩
  rw [outcome_named]
  exact h.again tokens text' halike

/-- One part after another, which reads on from any gap. -/
theorem Rereads.bind {next : α → Rule β} {b : β} (h : rule.Rereads alike row a text rest)
    (hnext : (next a).Rereads Relaid row' b rest last) :
    (rule >>= next).Rereads alike (row ++ row') b text last := by
  refine ⟨?_, fun tokens laid => ?_, fun tokens text' halike => ?_⟩
  · have hfirst := h.shorter
    have hlast := hnext.shorter
    rw [List.length_append]
    omega
  · rw [List.append_assoc]
    exact h.laid _ (hnext.laid tokens laid)
  · rw [List.append_assoc] at halike
    obtain ⟨rest', hread, relaid, hfirst⟩ := h.again _ text' halike
    obtain ⟨last', hlast, relaid', hshort⟩ := hnext.again tokens rest' relaid
    refine ⟨last', ?_, relaid', ?_⟩
    · rw [outcome_bind, hread, Option.bind_some, hlast]
    · rw [List.length_append]
      omega

/-- A rule that reads on from where a gap ends reads on from the gap. -/
theorem Rereads.after_gap (h : rule.Rereads Abreast row a (pastGap text) rest) :
    (gap >>= fun _ => rule).Rereads Relaid row a text rest := by
  refine ⟨?_, fun tokens laid => ?_, fun tokens text' relaid => ?_⟩
  · exact Nat.le_trans h.shorter (length_pastGap_le text)
  · exact laid_pastGap_iff.1 (h.laid tokens laid)
  · obtain ⟨rest', hread, relaid', hshort⟩ := h.again tokens _ relaid.abreast
    refine ⟨rest', ?_, relaid', Nat.le_trans hshort (length_pastGap_le text')⟩
    rw [outcome_bind]
    exact hread

/-- Two parts with a gap between them. -/
theorem Rereads.bind_gap {next : α → Rule β} {b : β} (h : rule.Rereads alike row a text rest)
    (hnext : (next a).Rereads Abreast row' b (pastGap rest) last) :
    (rule >>= fun x => gap >>= fun _ => next x).Rereads alike (row ++ row') b text last :=
  h.bind hnext.after_gap

theorem Rereads.bind_pure {f : α → β} (h : rule.Rereads alike row a text rest) :
    (rule >>= fun x => pure (f x)).Rereads alike row (f a) text rest := by
  refine ⟨h.shorter, h.laid, fun tokens text' halike => ?_⟩
  obtain ⟨rest', hread, hrest⟩ := h.again tokens text' halike
  refine ⟨rest', ?_, hrest⟩
  rw [outcome_bind, hread, Option.bind_some, outcome_pure]

theorem Rereads.orElse_left (h : rule.Rereads alike row a text rest) :
    (Rule.orElse rule other).Rereads alike row a text rest := by
  refine ⟨h.shorter, h.laid, fun tokens text' halike => ?_⟩
  obtain ⟨rest', hread, hrest⟩ := h.again tokens text' halike
  refine ⟨rest', ?_, hrest⟩
  rw [outcome_orElse, hread, Option.some_or]

theorem Rereads.orElse_right (h : rule.Rereads alike row a text rest)
    (hrefuses : ∀ tokens text', alike (row ++ tokens) text text' → (other text').outcome = none) :
    (Rule.orElse other rule).Rereads alike row a text rest := by
  refine ⟨h.shorter, h.laid, fun tokens text' halike => ?_⟩
  obtain ⟨rest', hread, hrest⟩ := h.again tokens text' halike
  refine ⟨rest', ?_, hrest⟩
  rw [outcome_orElse, hrefuses tokens text' halike, Option.none_or, hread]

/-- A rule that leaves every text as it is reads no tokens. -/
theorem rereads_nil (halike : ∀ {tokens text'}, alike tokens text text' → Relaid tokens text text')
    (hread : ∀ tokens text', alike tokens text text' → (rule text').outcome = some (a, text')) :
    rule.Rereads alike [] a text text :=
  ⟨Nat.le_refl _, fun _ laid => laid, fun tokens text' h =>
    ⟨text', hread tokens text' h, halike h, Nat.le_refl _⟩⟩

theorem rereads_pure (a : α) (text : List Char) :
    (pure a : Rule α).Rereads Abreast [] a text text :=
  rereads_nil Abreast.relaid fun _ text' _ => outcome_pure a text'

/-! ## Rules made of rules -/

theorem Spells.named (h : rule.Spells before after rows) : rule.named.Spells before after rows := by
  intro text a rest hpast hread hafter
  rw [outcome_named] at hread
  obtain ⟨hbefore, row, hrow, hrun⟩ := h text a rest hpast hread hafter
  exact ⟨hbefore, row, hrow, hrun.named⟩

theorem Spells.mono {rows' : α → List String → Prop} (h : rule.Spells before after rows)
    (hrows : ∀ a row, rows a row → rows' a row) : rule.Spells before after rows' := by
  intro text a rest hpast hread hafter
  obtain ⟨hbefore, row, hrow, hrun⟩ := h text a rest hpast hread hafter
  exact ⟨hbefore, row, hrows a row hrow, hrun⟩

/-- The row of the second part is put behind any row that the first may have read. The condition
between them is what the second part is known to begin with. -/
theorem Spells.bind_gap {next : α → Rule β} (middle : List Char → Prop)
    (h : rule.Spells before middle rows)
    (hnext : ∀ a, (next a).Spells middle after fun b row' =>
      ∀ row, rows a row → outer b (row ++ row')) :
    (rule >>= fun x => gap >>= fun _ => next x).Spells before after outer := by
  intro text b last hpast hread hafter
  obtain ⟨a, rest, hfirst, hread⟩ := exists_of_outcome_bind hread
  obtain ⟨hmiddle, row', hrow', hlast⟩ :=
    hnext a (pastGap rest) b last (pastGap_pastGap rest) hread hafter
  obtain ⟨hbefore, row, hrow, hrun⟩ := h text a rest hpast hfirst hmiddle
  exact ⟨hbefore, row ++ row', hrow' row hrow, hrun.bind_gap hlast⟩

theorem Spells.bind_pure {f : α → β} (h : rule.Spells before after rows)
    (hrows : ∀ a row, rows a row → outer (f a) row) :
    (rule >>= fun x => pure (f x)).Spells before after outer := by
  intro text b rest hpast hread hafter
  obtain ⟨a, behind, hfirst, hread⟩ := exists_of_outcome_bind hread
  cases hread
  obtain ⟨hbefore, row, hrow, hrun⟩ := h text a rest hpast hfirst hafter
  exact ⟨hbefore, row, hrows a row hrow, hrun.bind_pure⟩

/-- The second of two rules is reached again, since the first one is refused again. -/
theorem Spells.orElse (hfirst : rule.Spells (Ahead words) after rows)
    (hsecond : other.Spells (Ahead others) after rows) (hopens : rule.Opens words)
    (apart : Apart words others) :
    (Rule.orElse rule other).Spells (Ahead (words ++ others)) after rows := by
  intro text a rest hpast hread hafter
  rw [outcome_orElse, Option.or_eq_some_iff] at hread
  rcases hread with hread | ⟨-, hread⟩
  · obtain ⟨hbefore, row, hrow, hrun⟩ := hfirst text a rest hpast hread hafter
    exact ⟨hbefore.mono (List.subset_append_left _ _), row, hrow, hrun.orElse_left⟩
  · obtain ⟨hbefore, row, hrow, hrun⟩ := hsecond text a rest hpast hread hafter
    refine ⟨hbefore.mono (List.subset_append_right _ _), row, hrow, hrun.orElse_right ?_⟩
    exact fun tokens text' abreast => hopens.refuses apart hbefore abreast

/-- A part that is left out reads nothing, and neither does it again. -/
theorem Spells.optional {found : Option α → List String → Prop}
    (h : rule.Spells (Ahead words) (Ahead others) fun a => found (some a)) (hnone : found none [])
    (hopens : rule.Opens words) (apart : Apart words others) :
    rule.optional.Spells (Ahead (words ++ others)) (Ahead others) found := by
  have hpure : (pure none : Rule (Option α)).Spells (Ahead others) (Ahead others) found := by
    rintro text _ _ hpast ⟨⟩ hafter
    exact ⟨hpast ▸ hafter, [], hnone, rereads_pure none text⟩
  have hsome : (rule >>= fun a => pure (some a)).Spells (Ahead words) (Ahead others) found :=
    h.bind_pure fun _ _ hrow => hrow
  exact hsome.orElse hpure hopens.bind apart

/-! ## Words -/

/-- A rule that reads one token reads it again, whatever follows it, if it does so in front of
every text with the same gaps or more. -/
theorem rereads_token {token : String} (solid : Solid token.toList)
    (hread : ∀ tokens rest', Relaid tokens rest rest' →
      (rule (token.toList ++ rest')).outcome = some (a, rest')) :
    rule.Rereads Abreast [token] a (token.toList ++ rest) rest := by
  have hletter : 0 < token.toList.length := by
    obtain ⟨first, others, hletters, -⟩ := solid
    simp [hletters]
  have hlength : ∀ rest : List Char,
      rest.length + [token].length ≤ (token.toList ++ rest).length := by
    intro rest
    rw [List.length_append, List.length_singleton]
    omega
  refine ⟨hlength rest, fun tokens laid => ?_, fun tokens text' abreast => ?_⟩
  · exact .token solid (pastGap_of_solid (solid.append _)) laid
  · obtain ⟨rest', rfl, relaid⟩ := abreast.behind_token
    exact ⟨rest', hread tokens rest' relaid, relaid, hlength rest'⟩

theorem outcome_word_append (letters : String) (rest : List Char) :
    (word letters (letters.toList ++ rest)).outcome = some ((), rest) := by
  simp [word, ofScan]

theorem eq_append_of_outcome_word {letters : String} {a : Unit}
    (h : (word letters text).outcome = some (a, rest)) : text = letters.toList ++ rest := by
  simp only [word, ofScan] at h
  split at h
  · next hbegins =>
    obtain ⟨behind, rfl⟩ := List.isPrefixOf_iff_prefix.1 hbegins
    cases h
    rw [List.drop_left]
  · cases h

theorem spells_word {letters : String} (solid : Solid letters.toList) :
    (word letters).Spells (Ahead [letters]) after fun _ row => row = [letters] := by
  intro text a rest _ hread _
  obtain rfl := eq_append_of_outcome_word hread
  refine ⟨Or.inr ⟨letters, List.mem_singleton_self _, List.prefix_append _ _⟩, [letters], rfl, ?_⟩
  exact rereads_token solid fun _ rest' _ => outcome_word_append letters rest'

/-- A choice reads one of its words. -/
theorem exists_of_outcome_choice {choices : List (String × α)}
    (h : (choice choices text).outcome = some (a, rest)) :
    ∃ letters, (letters, a) ∈ choices ∧ text = letters.toList ++ rest := by
  induction choices with
  | nil => cases h
  | cons entry choices ih =>
    rw [choice, List.foldr_cons, outcome_orElse, Option.or_eq_some_iff] at h
    rcases h with h | ⟨-, h⟩
    · obtain ⟨_, behind, hword, hpair⟩ := exists_of_outcome_bind h
      cases hpair
      exact ⟨entry.1, List.mem_cons_self, eq_append_of_outcome_word hword⟩
    · obtain ⟨letters, hletters, htext⟩ := ih h
      exact ⟨letters, List.mem_cons_of_mem entry hletters, htext⟩

/-- The word that a choice has come to is found again, since no other one stands there. -/
theorem spells_choice {choices : List (String × α)}
    (clean : ∀ entry ∈ choices, Clean entry.1.toList ∧ entry.1.toList ≠ [])
    (unlike : choices.Pairwise fun entry other => Unlike entry.1 other.1) :
    (choice choices).Spells (Ahead (choices.map Prod.fst)) after
      fun a row => ∃ letters, (letters, a) ∈ choices ∧ row = [letters] := by
  induction choices with
  | nil =>
    intro text a rest _ hread
    cases hread
  | cons entry choices ih =>
    obtain ⟨hunlike, hunlikes⟩ := List.pairwise_cons.1 unlike
    obtain ⟨⟨hclean, hne⟩, hcleans⟩ := List.forall_mem_cons.1 clean
    have hfirst : (word entry.1 >>= fun _ => value entry.2).Spells (Ahead [entry.1]) after
        fun a row => ∃ letters, (letters, a) ∈ entry :: choices ∧ row = [letters] :=
      (spells_word (hclean.solid hne)).bind_pure fun _ _ hrow =>
        ⟨entry.1, List.mem_cons_self, hrow⟩
    have hothers : (choice choices).Spells (Ahead (choices.map Prod.fst)) after
        fun a row => ∃ letters, (letters, a) ∈ entry :: choices ∧ row = [letters] := by
      refine (ih hcleans hunlikes).mono ?_
      rintro a row ⟨letters, hletters, rfl⟩
      exact ⟨letters, List.mem_cons_of_mem entry hletters, rfl⟩
    refine hfirst.orElse hothers (opens_word entry.1).bind ?_
    intro letters hletters
    obtain rfl := List.mem_singleton.1 hletters
    exact ⟨hclean, hne, List.forall_mem_map.2 hunlike⟩

/-! ## Repetitions -/

/-- Whether a row stands for a value: it has a token, and it is the given row if the value is
known. -/
def Written (known : α → Prop) (tokens : α → List String) (a : α) (row : List String) : Prop :=
  row ≠ [] ∧ (known a → row = tokens a)

variable {known : α → Prop} {written : α → List String}

/-- An item that has a token, and the repetition behind it. -/
theorem Rereads.repeated_cons {as : List α} (h : rule.Rereads Relaid row a text rest)
    (hne : row ≠ []) (hmore : (repeated rule).Rereads Relaid row' as rest last) :
    (repeated rule).Rereads Relaid (row ++ row') (a :: as) text last := by
  -- what is read, and in what rows, is the same as in a run of the item and one of the repetition
  have hboth : (rule >>= fun _ => repeated rule).Rereads Relaid (row ++ row') as text last :=
    h.bind hmore
  refine ⟨hboth.shorter, hboth.laid, fun tokens text' relaid => ?_⟩
  rw [List.append_assoc] at relaid
  obtain ⟨rest', hread, relaid', hshort⟩ := h.again _ text' relaid
  obtain ⟨last', hlast, relaid'', hshort'⟩ := hmore.again tokens rest' relaid'
  have hpos : 0 < row.length := List.length_pos_iff.2 hne
  refine ⟨last', ?_, relaid'', ?_⟩
  · rw [outcome_repeated_of_some hread (by omega), hlast]
    rfl
  · rw [List.length_append]
    omega

/-- A repetition with gaps in front of each item. It stops again where it has stopped, since no item
begins with what is ahead. -/
theorem rereads_repeated (h : rule.Spells (Ahead words) (Ahead (words ++ others))
      (Written known written)) (hopens : rule.Opens words) (apart : Apart words others)
    {as : List α}
    (hread : (repeated (gap >>= fun _ => rule) text).outcome = some (as, rest))
    (ahead : Ahead others (pastGap rest)) :
    Ahead (words ++ others) (pastGap text) ∧ ∃ row,
      ((∀ a ∈ as, known a) → row = as.flatMap written) ∧
        (repeated (gap >>= fun _ => rule)).Rereads Relaid row as text rest := by
  -- the text left is shorter after every step
  induction hlength : text.length using Nat.strongRecOn generalizing text as with
  | ind length ih =>
    have hitem : ∀ text,
        ((gap >>= fun _ => rule) text).outcome = (rule (pastGap text)).outcome := by
      intro text
      rw [outcome_bind]
      rfl
    rcases outcome_repeated (gap >>= fun _ => rule) text with
      hstop | ⟨a, behind, hless, hfirst, hstep⟩
    · rw [hstop] at hread
      cases hread
      refine ⟨ahead.mono (List.subset_append_right _ _), [], fun _ => rfl,
        rereads_nil id fun tokens text' relaid => ?_⟩
      apply outcome_repeated_of_none
      rw [hitem]
      exact hopens.refuses apart ahead relaid.abreast
    · rw [hstep] at hread
      obtain ⟨⟨more, last⟩, hmore, hpair⟩ := Option.map_eq_some_iff.1 hread
      cases hpair
      obtain ⟨hnext, row', hrow', hrun'⟩ := ih behind.length (hlength ▸ hless) hmore rfl
      rw [hitem] at hfirst
      obtain ⟨hbegins, row, ⟨hne, hrow⟩, hrun⟩ :=
        h (pastGap text) a behind (pastGap_pastGap text) hfirst hnext
      refine ⟨hbegins.mono (List.subset_append_left _ _), row ++ row', fun hknown => ?_,
        hrun.after_gap.repeated_cons hne hrun'⟩
      obtain ⟨ha, hothers⟩ := List.forall_mem_cons.1 hknown
      rw [hrow ha, hrow' hothers, List.flatMap_cons]

/-- Items one after another, up to where none begins. -/
theorem spells_many (h : rule.Spells (Ahead words) (Ahead (words ++ others))
      (Written known written)) (hopens : rule.Opens words) (apart : Apart words others) :
    rule.many.Spells (Ahead (words ++ others)) (Ahead others)
      fun as row => (∀ a ∈ as, known a) → row = as.flatMap written := by
  intro text as last hpast hread ahead
  rw [many, outcome_bind, Rule.optional, outcome_orElse, outcome_bind] at hread
  cases hfirst : (rule text).outcome with
  | none =>
    rw [hfirst] at hread
    cases hread
    rw [hpast] at ahead
    have hnone : rule.optional.Rereads Abreast [] none text text :=
      (rereads_pure none text).orElse_right fun tokens text' abreast =>
        hopens.bind.refuses apart ahead abreast
    exact ⟨ahead.mono (List.subset_append_right _ _), [], fun _ => rfl,
      hnone.bind (rereads_nil id fun _ _ _ => rfl)⟩
  | some found =>
    obtain ⟨a, rest⟩ := found
    rw [hfirst] at hread
    have hmany : ((repeated (gap >>= fun _ => rule) >>= fun more => pure (a :: more))
        rest).outcome = some (as, last) := hread
    obtain ⟨more, behind, hmore, hpair⟩ := exists_of_outcome_bind hmany
    cases hpair
    obtain ⟨hnext, row', hrow', hrun'⟩ := rereads_repeated h hopens apart hmore ahead
    obtain ⟨hbegins, row, ⟨-, hrow⟩, hrun⟩ := h text a rest hpast hfirst hnext
    have hsome : rule.optional.Rereads Abreast row (some a) text rest :=
      hrun.bind_pure.orElse_left
    refine ⟨hbegins.mono (List.subset_append_left _ _), row ++ row', fun hknown => ?_,
      hsome.bind hrun'.bind_pure⟩
    obtain ⟨ha, hothers⟩ := List.forall_mem_cons.1 hknown
    rw [hrow ha, hrow' hothers, List.flatMap_cons]

/-- Items with a comma between each two. -/
theorem spells_commaSeparated
    (h : rule.Spells before (Ahead ("," :: others)) (Written known written))
    (apart : Apart [","] others) :
    (commaSeparated rule).Spells before (Ahead others)
      (Written (fun as => ∀ a ∈ as, known a) fun as => withCommas (as.map written)) := by
  have hcomma : (word "," >>= fun _ => gap >>= fun _ => rule).Spells (Ahead [","])
      (Ahead ([","] ++ others)) (Written known fun a => "," :: written a) := by
    refine (spells_word (by decide)).bind_gap before fun _ => h.mono ?_
    rintro a row ⟨-, hrow⟩ _ rfl
    exact ⟨List.cons_ne_nil _ _, fun hknown => congrArg ("," :: ·) (hrow hknown)⟩
  have hothers := spells_many hcomma (opens_word ",").bind apart
  refine h.bind_gap _ fun first => hothers.bind_pure ?_
  rintro more row' hrow' row ⟨hne, hrow⟩
  refine ⟨List.append_ne_nil_of_left_ne_nil hne _, fun hknown => ?_⟩
  obtain ⟨hfirst, hmore⟩ := List.forall_mem_cons.1 hknown
  rw [hrow hfirst, hrow' hmore]
  exact (withCommas_cons first more).symm

/-! ## Identifiers, paths and quoted texts -/

/-- A scan that splits a token off a text splits it off again. -/
theorem spells_ofScan (scan : List Char → Option (List Char × List Char))
    (token : String → String)
    (hscan : ∀ text name rest, scan text = some (name, rest) → after (pastGap rest) →
      text = (token (String.ofList name)).toList ++ rest ∧
        Solid (token (String.ofList name)).toList ∧
        ∀ tokens rest', Relaid tokens rest rest' →
          scan ((token (String.ofList name)).toList ++ rest') = some (name, rest')) :
    (named (ofScan scan) >>= fun found => value (String.ofList found)).Spells Any after
      fun text row => row = [token text] := by
  intro text a rest _ hread hafter
  obtain ⟨name, behind, hfound, hpair⟩ := exists_of_outcome_bind hread
  rw [outcome_named] at hfound
  cases hpair
  obtain ⟨rfl, solid, hagain⟩ := hscan text name rest hfound hafter
  refine ⟨trivial, _, rfl, rereads_token solid fun tokens rest' relaid => ?_⟩
  have hscanned : (ofScan scan ((token (String.ofList name)).toList ++ rest')).outcome =
      some (name, rest') := hagain tokens rest' relaid
  rw [outcome_bind, outcome_named, hscanned]
  rfl

theorem spells_ident : ident.Spells Any after fun name row => row = [name] := by
  refine spells_ofScan scanIdent id fun text name rest hscan _ => ?_
  obtain ⟨hident, hends⟩ := isIdent_of_scanIdent hscan
  rw [id, String.toList_ofList]
  refine ⟨(scanIdent_append hscan).symm, solid_of_isIdent hident, fun tokens rest' relaid => ?_⟩
  exact scanIdent_of_isIdent hident (relaid.endsIdent hends)

/-- A path is read again where no dot is ahead of it. -/
theorem spells_path (apart : Apart ["."] others) :
    path.Spells Any (Ahead others) fun name row => row = [name] := by
  refine spells_ofScan scanPath id fun text name rest hscan ahead => ?_
  obtain ⟨hpath, hends, htext⟩ := isPath_of_scanPath hscan
  rw [id, String.toList_ofList]
  refine ⟨htext, solid_of_isPath hpath, fun tokens rest' relaid => ?_⟩
  apply scanPath_of_isPath hpath (relaid.endsIdent hends)
  intro hdot
  -- a dot there would stand in front of the first text as well, and be ahead of the path
  obtain ⟨behind, rfl⟩ := List.head?_eq_some_iff.1 (relaid.head?_of_clean (by decide) hdot)
  rw [pastGap_of_solid ⟨'.', behind, rfl, by decide⟩] at ahead
  exact ahead.not_begins apart (List.mem_singleton_self _) ⟨behind, rfl⟩

/-- A quoted text stands between two quotes. -/
theorem scanQuoted_append {inner : List Char} (h : scanQuoted text = some (inner, rest)) :
    text = '"' :: (inner ++ '"' :: rest) := by
  unfold scanQuoted at h
  split at h
  · next letters =>
    split at h
    · cases h
    · next c behind hdrop =>
      cases h
      have hstop := List.head?_dropWhile_not (· != '"') letters
      rw [hdrop] at hstop
      obtain rfl : c = '"' := by simpa using hstop
      rw [← hdrop, List.takeWhile_append_dropWhile]
  · cases h

theorem spells_quoted :
    quoted.Spells Any after fun text row => row = ["\"" ++ text ++ "\""] := by
  refine spells_ofScan scanQuoted (fun text => "\"" ++ text ++ "\"")
    fun text name rest hscan _ => ?_
  have hquote := quote_notMem_of_scanQuoted hscan
  have hletters : ("\"" ++ String.ofList name ++ "\"").toList = '"' :: (name ++ ['"']) := by
    simp
  rw [hletters]
  refine ⟨?_, ⟨'"', _, rfl, by decide⟩, fun tokens rest' relaid => ?_⟩
  · rw [scanQuoted_append hscan]
    simp
  · rw [List.cons_append, List.append_assoc, List.singleton_append]
    exact scanQuoted_of_unquoted hquote

end Rule

end Linkage.Script
