import Linkage.Proofs.PrintedScripts
import Linkage.Proofs.Respelling

/-!
# Gaps that are put into scripts

A script that is read off a text is read off every text with the same tokens and the same gaps or
more. The rules of the grammar are followed one by one, each with the row of tokens it stands for.

There is one place where it matters what a gap is made of. The string group is spelled by everything
between its two halves but blanks, so a comment there makes it an unknown type
(`Script.parse_commented_groupText`). Everywhere else gaps are free (`Script.FreeGaps`).
-/

namespace Linkage

/-- Whether the types of all parameters of a member are known. -/
def ScriptMember.Known (written : ScriptMember) : Prop :=
  ∀ param ∈ written.params, ∃ type, param = .known type

/-- Whether those of all members of a unit are. -/
def ScriptUnit.Known (written : ScriptUnit) : Prop := ∀ member ∈ written.members, member.Known

/-- A member that can be declared has no unknown types. -/
theorem ScriptMember.known_of_member {inInterface : Bool} {written : ScriptMember} {member : Member}
    (h : written.member inInterface = .ok member) : written.Known := by
  obtain ⟨types, htypes, -⟩ := member_eq_ok_iff.1 h
  intro param hparam
  obtain ⟨type, -, htype⟩ := Except.exists_ok_of_mapM htypes hparam
  cases param with
  | known type => exact ⟨type, rfl⟩
  | unknown spelling => cases htype

theorem ScriptUnit.known_of_declaration {package : Option String} {written : ScriptUnit}
    {d : Declaration} (h : written.declaration package = .ok d) : written.Known := by
  intro member hmember
  obtain ⟨lowered, -, hlowered⟩ := Except.exists_ok_of_mapM (members_of_declaration h) hmember
  exact ScriptMember.known_of_member hlowered

theorem Script.known_of_declarations {script : Script} {declarations : List Declaration}
    (h : script.declarations = .ok declarations) : ∀ unit ∈ script.units, unit.Known := by
  intro unit hunit
  obtain ⟨d, -, hd⟩ := Except.exists_ok_of_mapM h hunit
  exact ScriptUnit.known_of_declaration hd

namespace Script.Rule

variable {after : List Char → Prop} {others : List String} {text rest : List Char}

/-! ## Parameters -/

/-- The words a member begins with. -/
def memberWords : List String := ScriptWord.all.map ScriptWord.spelling

/-- The words a parameter begins with. -/
def paramWords : List String :=
  ["boolean", "byte", "short", "char", "int", "long", "float", "double", "String"]

/-- The parameter that a string group is read as, by what stands between its halves. -/
def groupOf (between : List Char) : ScriptParam :=
  let spelling := between.filter fun c => !Text.isBlank c
  if spelling.isEmpty then .known .stringGroup
    else .unknown (String.ofList ("String".toList ++ spelling ++ "...".toList))

theorem outcome_groupParam (behind : List Char) :
    (groupParam ("String".toList ++ behind)).outcome =
      (word "..." (pastGap behind)).outcome.map fun found => (groupOf (gapOf behind), found.2) := by
  rw [groupParam, outcome_named, outcome_bind, outcome_word_append, Option.bind_some, outcome_bind]
  show ((word "..." >>= fun _ => pure (groupOf (gapOf behind))) (pastGap behind)).outcome = _
  rw [outcome_bind]
  cases (word "..." (pastGap behind)).outcome <;> rfl

/-- A string group has its two halves, with a gap between them. -/
theorem halves_of_groupParam {param : ScriptParam}
    (h : (groupParam text).outcome = some (param, rest)) :
    ∃ behind, text = "String".toList ++ behind ∧ pastGap behind = "...".toList ++ rest ∧
      param = groupOf (gapOf behind) := by
  have hfirst := h
  rw [groupParam, outcome_named] at hfirst
  obtain ⟨_, behind, hstring, -⟩ := exists_of_outcome_bind hfirst
  obtain rfl := eq_append_of_outcome_word hstring
  rw [outcome_groupParam] at h
  obtain ⟨⟨_, last⟩, hdots, hpair⟩ := Option.map_eq_some_iff.1 h
  cases hpair
  exact ⟨behind, rfl, eq_append_of_outcome_word hdots, rfl⟩

/-- The two halves are found again, with the same characters between them but for blanks. -/
theorem rereads_groupParam {param : ScriptParam}
    (h : (groupParam text).outcome = some (param, rest)) :
    groupParam.Rereads Abreast ["String", "..."] param text rest := by
  obtain ⟨behind, rfl, hbehind, rfl⟩ := halves_of_groupParam h
  have hshort : ∀ {behind rest : List Char}, pastGap behind = "...".toList ++ rest →
      rest.length + ["String", "..."].length ≤ ("String".toList ++ behind).length := by
    intro behind rest hpast
    have hgap := length_pastGap_le behind
    rw [hpast] at hgap
    simp at hgap ⊢
    omega
  have hstring : Solid "String".toList := by decide
  refine ⟨hshort hbehind, fun tokens laid => ?_, fun tokens text' abreast => ?_⟩
  · exact .token hstring (pastGap_of_solid (hstring.append _)) (.token (by decide) hbehind laid)
  · obtain ⟨behind', rfl, relaid⟩ := abreast.behind_token
    have hdots := relaid.abreast
    rw [hbehind] at hdots
    obtain ⟨rest', hbehind', relaid'⟩ := hdots.behind_token
    refine ⟨rest', ?_, relaid', hshort hbehind'⟩
    rw [outcome_groupParam, hbehind', outcome_word_append, groupOf, relaid.dots rfl]
    rfl

/-- A parameter of the other form is a known type other than the group. -/
theorem type_of_mem_scalars {letters : String} {param : ScriptParam}
    (h : (letters, param) ∈ [ParamType.boolean, .byte, .short, .char, .int, .long, .float, .double,
      .string].map fun type => (type.word, ScriptParam.known type)) :
    ∃ type, type ≠ .stringGroup ∧ param = .known type ∧ letters = type.word := by
  obtain ⟨type, htype, hpair⟩ := List.mem_map.1 h
  cases hpair
  refine ⟨type, ?_, rfl, rfl⟩
  rintro rfl
  revert htype
  decide

theorem spells_scalarParam : scalarParam.Spells (Ahead paramWords) after fun param row =>
    ∃ type, type ≠ .stringGroup ∧ param = .known type ∧ row = [type.word] := by
  refine Spells.named ((spells_choice (by decide) (by decide)).mono ?_)
  rintro param row ⟨letters, hletters, rfl⟩
  obtain ⟨type, hne, rfl, rfl⟩ := type_of_mem_scalars hletters
  exact ⟨type, hne, rfl, rfl⟩

/-- Where the dots of a group are not ahead of a type, no group stands there, also where gaps are
put in. -/
theorem refuses_groupParam_again {type : ParamType} {tokens : List String} {text' : List Char}
    (hne : type ≠ .stringGroup) (ahead : Ahead others (pastGap rest)) (apart : Apart ["..."] others)
    (abreast : Abreast (type.word :: tokens) (type.word.toList ++ rest) text') :
    (groupParam text').outcome = none := by
  cases hread : (groupParam text').outcome with
  | none => rfl
  | some found =>
    obtain ⟨behind', rfl, hbehind', -⟩ := halves_of_groupParam hread
    obtain ⟨rest', htext', relaid⟩ := abreast.behind_token
    have htype : type = .string := by
      have hboth := List.prefix_or_prefix_of_prefix (List.prefix_append "String".toList behind')
        ⟨rest', htext'.symm⟩
      cases type with
      | string => rfl
      | stringGroup => exact absurd rfl hne
      | _ =>
        revert hboth
        decide
    subst htype
    obtain rfl : behind' = rest' := List.append_cancel_left htext'
    have hclean : Clean "...".toList := by decide
    have hdots := relaid.abreast.begins hclean ⟨_, hbehind'.symm⟩
    exact absurd hdots (ahead.not_begins apart (List.mem_singleton_self _))

theorem spells_param (apart : Apart ["..."] others) : param.Spells (Ahead paramWords)
    (Ahead others) (Written (fun param => ∃ type, param = .known type) ScriptParam.tokens) := by
  apply Spells.named
  intro text found rest hpast hread ahead
  rw [outcome_orElse, Option.or_eq_some_iff] at hread
  -- what stands between the halves of a group is kept, so that even an unknown type is read again
  rcases hread with hgroup | ⟨-, hscalar⟩
  · obtain ⟨behind, rfl, -, hfound⟩ := halves_of_groupParam hgroup
    refine ⟨Or.inr ⟨"String", by decide, List.prefix_append _ _⟩, ["String", "..."],
      ⟨List.cons_ne_nil _ _, ?_⟩, (rereads_groupParam hgroup).orElse_left⟩
    rintro ⟨type, rfl⟩
    rw [groupOf] at hfound
    split at hfound
    · rw [hfound]
      rfl
    · cases hfound
  · obtain ⟨hbefore, row, ⟨type, hne, rfl, rfl⟩, hrun⟩ :=
      @spells_scalarParam Any text found rest hpast hscalar trivial
    refine ⟨hbefore, [type.word], ⟨List.cons_ne_nil _ _, fun _ => (tokens_known hne).symm⟩,
      hrun.orElse_right fun tokens text' abreast => ?_⟩
    rw [scalarParam, outcome_named] at hscalar
    obtain ⟨letters, hletters, rfl⟩ := exists_of_outcome_choice hscalar
    obtain ⟨type', -, hsame, rfl⟩ := type_of_mem_scalars hletters
    cases hsame
    exact refuses_groupParam_again hne ahead apart abreast

/-- The parameters in front of the closing bracket. -/
theorem spells_params : (optional paramList).Spells (Ahead (paramWords ++ [")"])) (Ahead [")"])
    fun found row => (∀ param ∈ found.getD [], ∃ type, param = .known type) →
      row = withCommas ((found.getD []).map ScriptParam.tokens) := by
  have hparam : param.Spells (Ahead paramWords) (Ahead [",", ")"]) _ := spells_param (by decide)
  have hopens : param.Opens paramWords := by
    have hgroup : groupParam.Opens ["String"] := (opens_word "String").bind.named
    have hscalar : scalarParam.Opens paramWords := (opens_choice _).named
    exact (hgroup.orElse hscalar).named.mono (by decide)
  have hparams := (spells_commaSeparated hparam (by decide)).named.mono fun _ _ hrow => hrow.2
  exact hparams.optional (fun _ => rfl) hopens.bind.named (by decide)

/-! ## Members -/

theorem spells_memberWord :
    memberWord.Spells (Ahead memberWords) after fun first row => row = [first.spelling] := by
  refine Spells.named ((spells_choice (by decide) (by decide)).mono ?_)
  rintro first row ⟨letters, hletters, rfl⟩
  obtain ⟨_, -, hpair⟩ := List.mem_map.1 hletters
  cases hpair
  rfl

theorem spells_bodyWord : bodyWord.Spells (Ahead ["transfer", "raise", "tamper"]) after
    fun make row => ∀ text, row ++ ["\"" ++ text ++ "\""] = (make text).tokens.tail := by
  refine Spells.named ((spells_choice (by decide) (by decide)).mono ?_)
  rintro make row ⟨letters, hletters, rfl⟩ text
  simp only [List.mem_cons, List.not_mem_nil, or_false, Prod.mk.injEq] at hletters
  rcases hletters with ⟨rfl, rfl⟩ | ⟨rfl, rfl⟩ | ⟨rfl, rfl⟩ <;> rfl

theorem spells_bodyClause :
    bodyClause.Spells (Ahead ["="]) after fun body row => row = body.tokens := by
  refine Spells.named ((spells_word (by decide)).bind_gap
    (Ahead ["transfer", "raise", "tamper"]) fun _ => ?_)
  refine spells_bodyWord.bind_gap Any fun make => ?_
  refine spells_quoted.bind_pure ?_
  rintro text _ rfl row hmake _ rfl
  rw [hmake text]
  rfl

/-- The body in front of the semicolon. -/
theorem spells_body : (optional bodyClause).Spells (Ahead (["="] ++ [";"])) (Ahead [";"])
    fun body row => row = bodyClauseTokens body := by
  have hopens : bodyClause.Opens ["="] := (opens_word "=").bind.named
  exact spells_bodyClause.optional rfl hopens (by decide)

theorem spells_member : member.Spells (Ahead memberWords) after
    (Written ScriptMember.Known ScriptMember.tokens) := by
  refine Spells.named (spells_memberWord.bind_gap Any fun first => ?_)
  refine spells_ident.bind_gap (Ahead ["("]) fun name => ?_
  refine (spells_word (by decide)).bind_gap (Ahead (paramWords ++ [")"])) fun _ => ?_
  refine spells_params.bind_gap (Ahead [")"]) fun params => ?_
  refine (spells_word (by decide)).bind_gap (Ahead ["=", ";"]) fun _ => ?_
  refine spells_body.bind_gap (Ahead [";"]) fun body => ?_
  refine (spells_word (by decide)).bind_pure ?_
  rintro _ _ rfl _ rfl _ rfl row hparams _ rfl _ rfl _ rfl
  refine ⟨List.cons_ne_nil _ _, fun hknown => ?_⟩
  rw [ScriptMember.tokens_eq, hparams hknown]

theorem spells_memberBlock : memberBlock.Spells (Ahead ["\x7b"]) after fun members row =>
    (∀ written ∈ members, written.Known) → row = memberTokens members := by
  have hopens : member.Opens memberWords := (opens_choice _).named.bind.named
  have hmembers : (many member).Spells (Ahead (memberWords ++ ["\x7d"])) (Ahead ["\x7d"]) _ :=
    spells_many spells_member hopens (by decide)
  refine (spells_word (by decide)).bind_gap (Ahead (memberWords ++ ["\x7d"])) fun _ => ?_
  refine hmembers.bind_gap (Ahead ["\x7d"]) fun members => ?_
  refine (spells_word (by decide)).bind_pure ?_
  rintro _ _ rfl row hrow _ rfl hknown
  rw [hrow hknown]
  rfl

/-! ## Units -/

theorem spells_abstractWord : (optional abstractWord).Spells (Ahead (["abstract"] ++ ["class"]))
    (Ahead ["class"]) fun found row => row = if found.isSome then ["abstract"] else [] := by
  have hword : abstractWord.Spells (Ahead ["abstract"]) (Ahead ["class"]) _ :=
    (spells_word (by decide)).named
  exact hword.optional rfl (opens_word "abstract").named (by decide)

theorem spells_extendsClause : (optional extendsClause).Spells
    (Ahead (["extends"] ++ ["implements", "\x7b"])) (Ahead ["implements", "\x7b"])
    fun parent row => row = parentClauseTokens parent := by
  have hclause : extendsClause.Spells (Ahead ["extends"]) (Ahead ["implements", "\x7b"])
      fun above row => row = ["extends", above] := by
    refine Spells.named ((spells_word (by decide)).bind_gap Any fun _ => ?_)
    refine (spells_path (by decide)).mono ?_
    rintro above _ rfl _ rfl
    rfl
  exact hclause.optional rfl (opens_word "extends").bind.named (by decide)

theorem spells_implementsClause : (optional implementsClause).Spells
    (Ahead (["implements"] ++ ["\x7b"])) (Ahead ["\x7b"])
    fun found row => row = capabilityClauseTokens (found.getD []) := by
  have hpath : path.Spells Any (Ahead [",", "\x7b"])
      (Written (fun _ => True) fun capability => [capability]) := by
    refine (spells_path (by decide)).mono ?_
    rintro capability _ rfl
    exact ⟨List.cons_ne_nil _ _, fun _ => rfl⟩
  have hclause : implementsClause.Spells (Ahead ["implements"]) (Ahead ["\x7b"])
      fun capabilities row => row = capabilityClauseTokens capabilities := by
    refine Spells.named ((spells_word (by decide)).bind_gap Any fun _ => ?_)
    refine (spells_commaSeparated hpath (by decide)).mono ?_
    rintro capabilities row ⟨hne, hrow⟩ _ rfl
    obtain rfl := hrow fun _ _ => trivial
    cases capabilities with
    | nil => exact absurd rfl hne
    | cons first others => rfl
  exact hclause.optional rfl (opens_word "implements").bind.named (by decide)

theorem spells_classUnit : classUnit.Spells (Ahead (["abstract"] ++ ["class"])) after
    (Written ScriptUnit.Known ScriptUnit.tokens) := by
  refine Spells.named (spells_abstractWord.bind_gap (Ahead ["class"]) fun abstract => ?_)
  refine (spells_word (by decide)).bind_gap Any fun _ => ?_
  refine (spells_path (by decide)).bind_gap (Ahead ["extends", "implements", "\x7b"])
    fun name => ?_
  refine spells_extendsClause.bind_gap (Ahead ["implements", "\x7b"]) fun parent => ?_
  refine spells_implementsClause.bind_gap (Ahead ["\x7b"]) fun capabilities => ?_
  refine spells_memberBlock.bind_pure ?_
  rintro members row hmembers _ rfl _ rfl _ rfl _ rfl _ rfl
  refine ⟨by simp, fun hknown => ?_⟩
  rw [ScriptUnit.tokens_classUnit, hmembers hknown]

theorem spells_interfaceUnit : interfaceUnit.Spells (Ahead ["interface"]) after
    (Written ScriptUnit.Known ScriptUnit.tokens) := by
  refine Spells.named ((spells_word (by decide)).bind_gap Any fun _ => ?_)
  refine (spells_path (by decide)).bind_gap (Ahead ["\x7b"]) fun name => ?_
  refine spells_memberBlock.bind_pure ?_
  rintro members row hmembers _ rfl _ rfl
  refine ⟨List.cons_ne_nil _ _, fun hknown => ?_⟩
  rw [hmembers hknown]
  rfl

/-- The words a unit begins with. -/
def unitWords : List String := ["abstract", "class", "interface"]

theorem opens_classUnit : classUnit.Opens ["abstract", "class"] :=
  Opens.named ((opens_word "abstract").named.optional_bind_gap fun _ => (opens_word "class").bind)

theorem spells_unit : unit.Spells (Ahead unitWords) after
    (Written ScriptUnit.Known ScriptUnit.tokens) :=
  (spells_classUnit.orElse spells_interfaceUnit opens_classUnit (by decide)).named

theorem opens_unit : unit.Opens unitWords :=
  (opens_classUnit.orElse (opens_word "interface").bind.named).named

/-! ## Scripts -/

theorem spells_packageClause : (optional packageClause).Spells (Ahead (["package"] ++ unitWords))
    (Ahead unitWords)
    fun package row => row = package.elim [] fun name => ["package", name, ";"] := by
  have hclause : packageClause.Spells (Ahead ["package"]) (Ahead unitWords)
      fun name row => row = ["package", name, ";"] := by
    refine Spells.named ((spells_word (by decide)).bind_gap Any fun _ => ?_)
    refine (spells_path (by decide)).bind_gap (Ahead [";"]) fun name => ?_
    refine (spells_word (by decide)).bind_pure ?_
    rintro _ _ rfl _ rfl _ rfl
    rfl
  exact hclause.optional rfl (opens_word "package").bind.named (by decide)

/-- Where a text is over, no token is left that a gap could be put in front of. -/
theorem spells_finish : finish.Spells (Ahead []) after fun _ row => row = [] := by
  apply Spells.named
  rintro text _ rest _ hread _
  cases text with
  | cons c text => cases hread
  | nil =>
    cases hread
    refine ⟨Or.inl rfl, [], rfl, rereads_nil Abreast.relaid fun tokens text' abreast => ?_⟩
    rw [abreast.eq_nil]
    rfl

/-- What a script consists of behind the gap in front. -/
def scriptParts : Rule Script := do
  let package ← optional packageClause
  let _ ← gap
  let units ← many unit
  let _ ← gap
  finish
  return ⟨package, units⟩

theorem outcome_script (text : List Char) :
    (script text).outcome = (scriptParts (pastGap text)).outcome := by
  rw [script, outcome_named, outcome_bind]
  rfl

theorem spells_scriptParts : scriptParts.Spells (Ahead (["package"] ++ unitWords)) after
    fun found row => (∀ unit ∈ found.units, unit.Known) → row = found.tokens := by
  have hunits : (many unit).Spells (Ahead (unitWords ++ [])) (Ahead []) _ :=
    spells_many spells_unit opens_unit (by decide)
  refine spells_packageClause.bind_gap (Ahead unitWords) fun package => ?_
  refine hunits.bind_gap (Ahead []) fun units => ?_
  refine spells_finish.bind_pure ?_
  rintro _ _ rfl row hrow _ rfl hknown
  rw [hrow hknown, List.append_nil]
  rfl

/-- Nothing is left behind a script. -/
theorem rest_eq_nil_of_script {found : Script} (h : (script text).outcome = some (found, rest)) :
    rest = [] := by
  rw [outcome_script] at h
  obtain ⟨package, _, -, h⟩ := exists_of_outcome_bind h
  obtain ⟨_, _, -, h⟩ := exists_of_outcome_bind h
  obtain ⟨units, _, -, h⟩ := exists_of_outcome_bind h
  obtain ⟨_, last, -, h⟩ := exists_of_outcome_bind h
  obtain ⟨_, _, hfinish, h⟩ := exists_of_outcome_bind h
  cases h
  rw [finish, outcome_named] at hfinish
  cases last with
  | cons c last => cases hfinish
  | nil =>
    cases hfinish
    rfl

end Script.Rule

/-- A script whose types are known is read off every text with the same tokens and the same gaps or
more. Its own text is laid out by these tokens. -/
theorem Script.laid_of_read {text : List Char} {script : Script} (h : Script.read text = .ok script)
    (known : ∀ unit ∈ script.units, unit.Known) :
    Script.Laid script.tokens text ∧
      ∀ text', Script.Relaid script.tokens text text' → Script.read text' = .ok script := by
  obtain ⟨rest, houtcome⟩ := outcome_of_read h
  obtain rfl := Rule.rest_eq_nil_of_script houtcome
  rw [Rule.outcome_script] at houtcome
  obtain ⟨-, row, hrow, hrun⟩ :=
    @Rule.spells_scriptParts Any _ script [] (pastGap_pastGap text) houtcome trivial
  obtain rfl := hrow known
  have hfinished : Laid [] [] := .finished rfl
  constructor
  · have hlaid := hrun.laid [] hfinished
    rw [List.append_nil] at hlaid
    exact laid_pastGap_iff.1 hlaid
  · intro text' relaid
    have habreast := relaid.abreast
    rw [← List.append_nil script.tokens] at habreast
    obtain ⟨rest', hread, -⟩ := hrun.again [] _ habreast
    rw [← Rule.outcome_script] at hread
    rw [read]
    dsimp only
    rw [hread]

/-- Whether gaps are free in a text with the given tokens and declarations. The text is laid out by
the tokens, every place in it is between two of them or inside a token or a comment, and wherever
two tokens meet a gap may be put in without a change to the declarations. Only in front of the dots
of a string group has it to be blank. -/
structure Script.FreeGaps (text : String) (tokens : List String) (declarations : List Declaration) :
    Prop where
  laid : Script.Laid tokens text.toList
  place : ∀ front behind, text.toList = front ++ behind → Script.Place tokens front behind
  unchanged : ∀ before after front gap behind, tokens = before ++ after →
    text.toList = front ++ behind → Script.Seam before front behind → Script.IsGap gap →
    (after.head? = some "..." → ∀ c ∈ gap, Script.isSpace c = true) →
    Script.parse (String.ofList (front ++ (gap ++ behind))) = .ok declarations

/-- Gaps are free in every text that holds declarations. -/
theorem Script.freeGaps_of_parse {text : String} {declarations : List Declaration}
    (h : Script.parse text = .ok declarations) : ∃ script, Script.read text.toList = .ok script ∧
      Script.FreeGaps text script.tokens declarations := by
  obtain ⟨script, hread, hlowered⟩ := Except.bind_eq_ok_iff.1 h
  obtain ⟨laid, again⟩ := laid_of_read hread (known_of_declarations hlowered)
  refine ⟨script, hread, laid, ?_, ?_⟩
  · intro front behind htext
    rw [htext] at laid
    exact laid.place
  · intro before after front gap behind htokens htext seam closed blank
    rw [htext, htokens] at laid
    have hrelaid := laid.relaid_insert seam closed blank
    rw [← htext, ← htokens] at hrelaid
    refine Except.bind_eq_ok_iff.2 ⟨script, ?_, hlowered⟩
    rw [String.toList_ofList]
    exact again _ hrelaid

/-! ## Between the halves of a string group -/

/-- A script with a string group. -/
def groupScript : Script where
  package := none
  units := [.classUnit false "p.A" none []
    [⟨.virtual, "run", [.known .stringGroup], some (.transfer "A")⟩]]

/-- What it declares. -/
def groupDeclaration : Declaration where
  name := ⟨"p.A"⟩
  kind := .concreteClass
  parent := none
  capabilities := []
  members := [⟨⟨"run", ⟨[.stringGroup]⟩⟩, .virtual, some (.transfer "A")⟩]

/-- The first half of the group, with all that is in front of it. -/
def groupFront : String := "class p.A \x7b virtual run(String"

/-- The second half, with all that follows. -/
def groupBehind : String := "...) = transfer \"A\"; \x7d"

theorem parse_groupText : Script.read (groupFront ++ groupBehind).toList = .ok groupScript ∧
    Script.parse (groupFront ++ groupBehind) = .ok [groupDeclaration] := by
  decide +kernel

/-- There is a seam between the two halves. -/
theorem seam_groupText : ∃ before after, groupScript.tokens = before ++ "..." :: after ∧
    Script.Seam before groupFront.toList groupBehind.toList := by
  have hfront : groupFront.toList = [] ++ ("class".toList ++ ([' '] ++ ("p.A".toList ++
      ([' '] ++ ("\x7b".toList ++ ([' '] ++ ("virtual".toList ++ ([' '] ++ ("run".toList ++
      ([] ++ ("(".toList ++ ([] ++ ("String".toList ++ []))))))))))))) := by
    decide
  have hblank : Script.IsGap [' '] := .blank rfl .nil
  refine ⟨["class", "p.A", "\x7b", "virtual", "run", "(", "String"], _, rfl, ?_⟩
  rw [hfront]
  exact .token .nil (.token hblank (.token hblank (.token hblank (.token hblank
    (.token .nil (.token .nil (.between .nil)))))))

/-- A comment that is ended. -/
theorem isGap_comment : Script.IsGap " // rest\n".toList := by
  have hline : '\n' ∉ " rest".toList := by decide
  exact .blank rfl (.comment hline .nil)

/-- Blanks may stand between the two halves, and comments in front of the name. -/
theorem Script.parse_spaced_groupText :
    Script.parse (groupFront ++ groupBehind) = .ok [groupDeclaration] ∧
      Script.parse (groupFront ++ " " ++ groupBehind) = .ok [groupDeclaration] ∧
      Script.parse "class // rest\n p.A \x7b virtual run(String...) = transfer \"A\"; \x7d" =
        .ok [groupDeclaration] := by
  obtain ⟨hread, hparse⟩ := parse_groupText
  obtain ⟨script, hscript, hfree⟩ := Script.freeGaps_of_parse hparse
  obtain rfl : groupScript = script := Except.ok.inj (hread.symm.trans hscript)
  refine ⟨hparse, ?_, ?_⟩
  · obtain ⟨before, after, htokens, seam⟩ := seam_groupText
    have hblank : ∀ c ∈ [' '], Script.isSpace c = true := List.forall_mem_singleton.2 rfl
    have hspaced := hfree.unchanged before _ _ [' '] _ htokens String.toList_append seam
      (.blank rfl .nil) fun _ => hblank
    exact hspaced
  · let behind := " p.A \x7b virtual run(String...) = transfer \"A\"; \x7d".toList
    have hparts : (groupFront ++ groupBehind).toList = "class".toList ++ behind := by decide
    have hseam : Script.Seam ["class"] "class".toList behind := .token .nil (.between .nil)
    have hcommented := hfree.unchanged ["class"] _ _ _ _ rfl hparts hseam isGap_comment
      fun hdots => absurd hdots (by decide)
    exact hcommented

/-- Comments may not: they are taken for a part of the type. -/
theorem Script.parse_commented_groupText :
    Script.parse (groupFront ++ groupBehind) = .ok [groupDeclaration] ∧
      (∃ before after, groupScript.tokens = before ++ "..." :: after ∧
        Script.Seam before groupFront.toList groupBehind.toList) ∧
      Script.IsGap " // rest\n".toList ∧
      Script.parse (groupFront ++ " // rest\n" ++ groupBehind) =
        .error (.unknownType "String//rest...") := by
  refine ⟨parse_groupText.2, seam_groupText, isGap_comment, ?_⟩
  decide +kernel

end Linkage
