import Linkage.Proofs.Except
import Linkage.Proofs.TokenRows
import Mathlib.Data.List.Forall2

/-!
# Printed scripts

Every printable script is read back from its text, and the declarations made of it are those it
stands for (`Script.parse_text_declares`). The rules of the grammar are followed one by one: each
reads the tokens of its construct in front of any tokens that may follow there. Keywords are no
obstacle, since a name is read wherever a rule expects one and clauses that can be left out begin
with words of which none begins another.
-/

namespace Linkage

/-! ## Clauses that may be left out -/

/-- The tokens of a body clause, if there is a body. -/
def bodyClauseTokens (body : Option Body) : List String := body.elim [] Body.tokens

/-- The tokens of the clause that names a parent, if there is one. -/
def parentClauseTokens (parent : Option String) : List String :=
  parent.elim [] fun above => ["extends", above]

/-- The tokens of the clause that names capabilities, if there are any. -/
def capabilityClauseTokens (capabilities : List String) : List String :=
  if capabilities.isEmpty then []
  else "implements" :: withCommas (capabilities.map fun capability => [capability])

/-- A list, or nothing where it is empty. -/
def given {α : Type} (as : List α) : Option (List α) := if as.isEmpty then none else some as

@[simp] theorem getD_given {α : Type} (as : List α) : (given as).getD [] = as := by
  cases as <;> rfl

/-- The tokens of a member, part by part in the order in which the parts are read. -/
theorem ScriptMember.tokens_eq (first : ScriptWord) (name : String) (params : List ScriptParam)
    (body : Option Body) : ScriptMember.tokens ⟨first, name, params, body⟩ =
      [first.spelling] ++ ([name] ++ (["("] ++ (withCommas (params.map ScriptParam.tokens) ++
        ([")"] ++ (bodyClauseTokens body ++ [";"]))))) := by
  simp [ScriptMember.tokens, bodyClauseTokens]

/-- The tokens of a class, part by part in the order in which the parts are read. -/
theorem ScriptUnit.tokens_classUnit (abstract : Bool) (name : String) (parent : Option String)
    (capabilities : List String) (members : List ScriptMember) :
    (ScriptUnit.classUnit abstract name parent capabilities members).tokens =
      (if abstract then ["abstract"] else []) ++ (["class"] ++ ([name] ++
        (parentClauseTokens parent ++ (capabilityClauseTokens capabilities ++
          memberTokens members)))) := by
  simp [ScriptUnit.tokens, parentClauseTokens, capabilityClauseTokens]

namespace Script.Rule

variable {behind : List String}

/-! ## Members -/

theorem reads_memberWord (first : ScriptWord) :
    memberWord.Reads [first.spelling] first behind := by
  apply Reads.named
  apply reads_choice
  · cases first <;> decide
  · decide
  · cases first <;> decide

theorem reads_scalarParam {type : ParamType} (h : type ≠ .stringGroup) :
    scalarParam.Reads [type.word] (.known type) behind := by
  apply Reads.named
  apply reads_choice
  · cases type <;> decide
  · decide
  · cases type <;> first | exact absurd rfl h | decide

/-- The two halves of the string group make up its spelling, whatever space is between them. -/
theorem reads_groupParam :
    groupParam.Reads [ParamType.string.word, "..."] (.known .stringGroup) behind := by
  apply Reads.named
  intro hbehind
  have hhalves : SolidRow [ParamType.string.word, "..."] := by
    simp only [SolidRow]
    decide
  have hdots : SolidRow ("..." :: behind) := (solidRow_singleton (by decide)).append hbehind
  have hgap : (gap (spaced ("..." :: behind))).outcome = some ([' '], opened ("..." :: behind)) :=
    congrArg some (splitGap_spaced hdots)
  refine ⟨hhalves, spaced behind, .withSpace, ?_⟩
  rw [List.cons_append, List.singleton_append, ParamType.word, outcome_bind, outcome_word,
    Option.bind_some, outcome_bind, hgap, Option.bind_some, outcome_bind, outcome_word]
  rfl

/-- A string in front of anything but dots is not a group, and no other type begins like one. -/
theorem refuses_groupParam {type : ParamType} {token : String} (h : type ≠ .stringGroup)
    (htoken : Unlike "..." token) : groupParam.Refuses (type.word :: token :: behind) := by
  apply Refuses.named
  cases type with
  | stringGroup => exact absurd rfl h
  | string =>
    -- the first half stands there, so it is the dots that are refused
    have hstring : Solid "String".toList := by decide
    exact (reads_word hstring).refuses_bind_gap fun _ => (refuses_word htoken).bind
  | _ =>
    refine (refuses_word ?_).bind
    decide

theorem tokens_known {type : ParamType} (h : type ≠ .stringGroup) :
    (ScriptParam.known type).tokens = [type.word] := by
  cases type <;> first | exact absurd rfl h | rfl

theorem reads_param {token : String} (htoken : Unlike "..." token) (type : ParamType) :
    param.Reads (ScriptParam.known type).tokens (.known type) (token :: behind) := by
  apply Reads.named
  by_cases h : type = .stringGroup
  · subst h
    exact reads_groupParam.orElse_left
  · rw [tokens_known h]
    exact (reads_scalarParam h).orElse_right (refuses_groupParam h htoken)

/-- Parameters are read up to the closing bracket. -/
theorem reads_params {params : List ScriptParam}
    (hknown : ∀ param ∈ params, ∃ type, param = .known type) : (optional paramList).Reads
      (withCommas (params.map ScriptParam.tokens)) (given params) (")" :: behind) := by
  cases params with
  | nil =>
    -- a closing bracket opens no parameter of either form
    have hgroup : groupParam.Refuses (")" :: behind) := (refuses_word (by decide)).bind.named
    have hscalar : scalarParam.Refuses (")" :: behind) := (refuses_choice (by decide)).named
    exact (hgroup.orElse hscalar).named.bind.named.optional
  | cons first params =>
    apply Reads.optional
    apply Reads.named
    refine reads_commaSeparated ?_ (refuses_word (by decide))
    intro param rest hsuffix
    obtain ⟨type, rfl⟩ := hknown param (hsuffix.subset List.mem_cons_self)
    -- what follows a parameter is a comma or the bracket, and never the dots of a group
    cases rest with
    | nil => exact reads_param (by decide) type
    | cons next rest => exact reads_param (by decide) type

theorem reads_bodyClause {body : Body} (h : '"' ∉ body.text.toList) :
    bodyClause.Reads body.tokens body behind := by
  apply Reads.named
  obtain ⟨make, hmake, hmem, hsolid⟩ : ∃ make : String → Body, make body.text = body ∧
      (body.word, make) ∈ [("transfer", Body.transfer), ("raise", .raise), ("tamper", .tamper)] ∧
      Solid body.word.toList := by
    have hwords : ∀ word ∈ ["transfer", "raise", "tamper"], Solid word.toList := by decide
    cases body with
    | transfer tag => exact ⟨.transfer, rfl, by simp [Body.word], hwords _ (by simp [Body.word])⟩
    | raise message => exact ⟨.raise, rfl, by simp [Body.word], hwords _ (by simp [Body.word])⟩
    | tamper tag => exact ⟨.tamper, rfl, by simp [Body.word], hwords _ (by simp [Body.word])⟩
  have hword : bodyWord.Reads [body.word] make (["\"" ++ body.text ++ "\""] ++ behind) :=
    (reads_choice hsolid (by decide) hmem).named
  have hequals : Solid "=".toList := by decide
  refine (reads_word hequals).bind_gap ?_
  refine hword.bind_gap ?_
  exact (reads_quoted h).bind_pure hmake

/-- A body clause stands or is left out in front of the semicolon. -/
theorem reads_body {body : Option Body} (h : ∀ found ∈ body, '"' ∉ found.text.toList) :
    (optional bodyClause).Reads (bodyClauseTokens body) body (";" :: behind) := by
  cases body with
  | none => exact Refuses.optional (refuses_word (by decide)).bind.named
  | some body => exact (reads_bodyClause (h body rfl)).optional

theorem reads_member {written : ScriptMember} (h : written.Printable) :
    member.Reads written.tokens written behind := by
  obtain ⟨first, name, params, body⟩ := written
  have hname : IsIdent name.toList := h.name_ident
  have hopen : Solid "(".toList := by decide
  have hclose : Solid ")".toList := by decide
  have hend : Solid ";".toList := by decide
  rw [ScriptMember.tokens_eq]
  apply Reads.named
  refine (reads_memberWord first).bind_gap ?_
  refine (reads_ident hname).bind_gap ?_
  refine (reads_word hopen).bind_gap ?_
  refine (reads_params h.params_known).bind_gap ?_
  refine (reads_word hclose).bind_gap ?_
  refine (reads_body h.body_unquoted).bind_gap ?_
  refine (reads_word hend).bind_pure ?_
  rw [getD_given]

theorem reads_memberBlock {members : List ScriptMember}
    (h : ∀ written ∈ members, written.Printable) :
    memberBlock.Reads (memberTokens members) members behind := by
  have hnonempty : ∀ written ∈ members, written.tokens ≠ [] := by
    intro written _
    simp [ScriptMember.tokens]
  have hstop : member.Refuses ("\x7d" :: behind) := (refuses_choice (by decide)).named.bind.named
  have hmembers : (many member).Reads (members.flatMap ScriptMember.tokens) members
      ("\x7d" :: behind) := by
    refine reads_many hnonempty (fun written rest hsuffix => ?_) hstop
    exact reads_member (h written (hsuffix.subset List.mem_cons_self))
  have hopen : Solid "\x7b".toList := by decide
  have hclose : Solid "\x7d".toList := by decide
  refine (reads_word hopen).bind_gap ?_
  refine hmembers.bind_gap ?_
  exact (reads_word hclose).bind_pure rfl

/-! ## Units -/

theorem reads_abstractWord (abstract : Bool) : (optional abstractWord).Reads
    (if abstract then ["abstract"] else []) (if abstract then some () else none)
    ("class" :: behind) := by
  cases abstract with
  | false => exact (refuses_word (by decide)).named.optional
  | true => exact (reads_word (by decide)).named.optional

theorem reads_implementsClause {capabilities : List String}
    (h : ∀ capability ∈ capabilities, IsPath capability.toList) :
    (optional implementsClause).Reads (capabilityClauseTokens capabilities) (given capabilities)
      ("\x7b" :: behind) := by
  cases capabilities with
  | nil => exact (refuses_word (by decide)).bind.named.optional
  | cons first capabilities =>
    have hword : Solid "implements".toList := by decide
    apply Reads.optional
    apply Reads.named
    refine (reads_word hword).bind_gap (reads_commaSeparated ?_ (refuses_word (by decide)))
    intro capability rest hsuffix
    exact reads_path (h capability (hsuffix.subset List.mem_cons_self))

/-- Whether capabilities are named or not, what follows a parent cannot be taken for one. -/
theorem reads_extendsClause {parent : Option String} (capabilities : List String)
    (h : ∀ above ∈ parent, IsPath above.toList) :
    (optional extendsClause).Reads (parentClauseTokens parent) parent
      (capabilityClauseTokens capabilities ++ "\x7b" :: behind) := by
  cases parent with
  | none =>
    apply Refuses.optional
    cases capabilities <;> exact (refuses_word (by decide)).bind.named
  | some above =>
    have hword : Solid "extends".toList := by decide
    apply Reads.optional
    apply Reads.named
    exact (reads_word hword).bind_gap (reads_path (h above rfl))

theorem reads_classUnit {abstract : Bool} {name : String} {parent : Option String}
    {capabilities : List String} {members : List ScriptMember}
    (h : (ScriptUnit.classUnit abstract name parent capabilities members).Printable) :
    classUnit.Reads (ScriptUnit.classUnit abstract name parent capabilities members).tokens
      (.classUnit abstract name parent capabilities members) behind := by
  obtain ⟨hname, hothers⟩ := List.forall_mem_cons.1 h.names_paths
  obtain ⟨hparent, hcapabilities⟩ := List.forall_mem_append.1 hothers
  have hextends : (optional extendsClause).Reads (parentClauseTokens parent) parent
      (capabilityClauseTokens capabilities ++ memberTokens members ++ behind) := by
    rw [List.append_assoc]
    exact reads_extendsClause _ fun above habove => hparent above (Option.mem_toList.2 habove)
  have hclass : Solid "class".toList := by decide
  rw [ScriptUnit.tokens_classUnit]
  apply Reads.named
  refine (reads_abstractWord abstract).bind_gap ?_
  refine (reads_word hclass).bind_gap ?_
  refine (reads_path hname).bind_gap ?_
  refine hextends.bind_gap ?_
  refine (reads_implementsClause hcapabilities).bind_gap ?_
  refine (reads_memberBlock h.members_printable).bind_pure ?_
  rw [getD_given]
  cases abstract <;> rfl

theorem reads_interfaceUnit {name : String} {members : List ScriptMember}
    (h : (ScriptUnit.interfaceUnit name members).Printable) :
    interfaceUnit.Reads (ScriptUnit.interfaceUnit name members).tokens
      (.interfaceUnit name members) behind := by
  have hname := h.names_paths name List.mem_cons_self
  have hword : Solid "interface".toList := by decide
  apply Reads.named
  refine (reads_word hword).bind_gap ?_
  refine (reads_path hname).bind_gap ?_
  exact (reads_memberBlock h.members_printable).bind_pure rfl

theorem refuses_classUnit {token : String} (habstract : Unlike "abstract" token)
    (hclass : Unlike "class" token) : classUnit.Refuses (token :: behind) := by
  apply Refuses.named
  have hnone : (optional abstractWord).Reads [] none (token :: behind) :=
    (refuses_word habstract).named.optional
  exact hnone.refuses_bind_gap fun _ => (refuses_word hclass).bind

/-- A unit begins with one of three words. -/
theorem exists_tokens_eq (written : ScriptUnit) : ∃ token rest, written.tokens = token :: rest ∧
    token ∈ ["abstract", "class", "interface"] := by
  cases written with
  | classUnit abstract name parent capabilities members =>
    rw [ScriptUnit.tokens_classUnit]
    cases abstract with
    | false => exact ⟨"class", _, rfl, by decide⟩
    | true => exact ⟨"abstract", _, rfl, by decide⟩
  | interfaceUnit name members => exact ⟨"interface", _, rfl, by decide⟩

theorem reads_unit {written : ScriptUnit} (h : written.Printable) :
    unit.Reads written.tokens written behind := by
  apply Reads.named
  cases written with
  | classUnit abstract name parent capabilities members => exact (reads_classUnit h).orElse_left
  | interfaceUnit name members =>
    refine (reads_interfaceUnit h).orElse_right ?_
    exact refuses_classUnit (by decide) (by decide)

/-- No unit begins where a text is over. -/
theorem refuses_unit_nil : unit.Refuses [] := by
  have habstract : (optional abstractWord).Reads [] none [] :=
    (refuses_word_nil (by decide)).named.optional
  have hclass : classUnit.Refuses [] :=
    Refuses.named (habstract.refuses_bind_gap fun _ => (refuses_word_nil (by decide)).bind)
  have hinterface : interfaceUnit.Refuses [] := (refuses_word_nil (by decide)).bind.named
  exact (hclass.orElse hinterface).named

/-! ## Scripts -/

theorem reads_packageClause {package : Option String} {units : List ScriptUnit}
    (h : ∀ name ∈ package, IsPath name.toList)
    (hbehind : behind = units.flatMap ScriptUnit.tokens) :
    (optional packageClause).Reads (package.elim [] fun name => ["package", name, ";"]) package
      behind := by
  cases package with
  | none =>
    -- without a package the script begins with a unit or is over at once
    subst hbehind
    apply Refuses.optional
    cases units with
    | nil => exact (refuses_word_nil (by decide)).bind.named
    | cons unit units =>
      obtain ⟨token, rest, htokens, htoken⟩ := exists_tokens_eq unit
      have hunlike : ∀ first ∈ ["abstract", "class", "interface"], Unlike "package" first := by
        decide
      rw [List.flatMap_cons, htokens]
      exact (refuses_word (hunlike token htoken)).bind.named
  | some name =>
    have hword : Solid "package".toList := by decide
    have hend : Solid ";".toList := by decide
    apply Reads.optional
    apply Reads.named
    refine (reads_word hword).bind_gap ?_
    refine (reads_path (h name rfl)).bind_gap ?_
    exact (reads_word hend).bind_pure rfl

theorem reads_units {units : List ScriptUnit} (h : ∀ unit ∈ units, unit.Printable) :
    (many unit).Reads (units.flatMap ScriptUnit.tokens) units [] := by
  have hnonempty : ∀ unit ∈ units, unit.tokens ≠ [] := by
    intro unit _
    obtain ⟨token, rest, htokens, -⟩ := exists_tokens_eq unit
    rw [htokens]
    exact List.cons_ne_nil token rest
  refine reads_many hnonempty (fun unit rest hsuffix => ?_) refuses_unit_nil
  exact reads_unit (h unit (hsuffix.subset List.mem_cons_self))

theorem reads_finish : finish.Reads [] () [] :=
  Reads.named fun _ => ⟨solidRow_nil, [], .bare, rfl⟩

theorem reads_script {written : Script} (h : written.Printable) :
    script.Reads written.tokens written [] := by
  have hunits := reads_units h.units_printable
  have hend : written.units.flatMap ScriptUnit.tokens ++ [] ++ [] =
      written.units.flatMap ScriptUnit.tokens := by
    rw [List.append_nil, List.append_nil]
  rw [Script.tokens, ← List.append_nil (written.units.flatMap ScriptUnit.tokens)]
  apply Reads.named
  apply Reads.after_gap
  refine (reads_packageClause h.package_path hend).bind_gap ?_
  refine hunits.bind_gap ?_
  exact reads_finish.bind_pure rfl

end Script.Rule

/-- A printable script is read back from its text. -/
theorem Script.read_text {script : Script} (h : script.Printable) :
    Script.read script.text.toList = .ok script := by
  obtain ⟨-, left, -, houtcome⟩ := Rule.reads_script h solidRow_nil
  rw [List.append_nil, ← toList_intercalate_space] at houtcome
  rw [Script.read, Script.text]
  dsimp only
  rw [houtcome]

/-! ## What a script stands for -/

/-- Whether a name is what a written name stands for in a package: the same if it has a dot in it,
and otherwise the package, a dot and the written name. -/
def InPackage (package : Option String) (written : String) (name : QualifiedName) : Prop :=
  name.text = if '.' ∈ written.toList then written else package.elim written (· ++ "." ++ written)

/-- Whether a member is what a written member stands for. Every word but `static` is the word of the
kind itself. -/
structure ScriptMember.Declares (inInterface : Bool) (written : ScriptMember) (member : Member) :
    Prop where
  name : member.key.name = written.name
  params : written.params = member.key.signature.params.map .known
  static_kind : written.word = .static →
    member.kind = if inInterface then .interfaceStatic else .static
  other_kind : written.word ≠ .static → member.kind.word = written.word.spelling
  body : member.body = written.body

/-- Whether a declaration is what a written unit stands for in a package. -/
inductive ScriptUnit.Declares (package : Option String) : ScriptUnit → Declaration → Prop where
  | ofClass {abstract : Bool} {name : String} {parent : Option String} {capabilities : List String}
      {members : List ScriptMember} {d : Declaration} (hname : InPackage package name d.name)
      (hkind : d.kind = if abstract then .abstractClass else .concreteClass)
      (hparent : Option.Rel (InPackage package) parent d.parent)
      (hcapabilities : List.Forall₂ (InPackage package) capabilities d.capabilities)
      (hmembers : List.Forall₂ (ScriptMember.Declares false) members d.members) :
      ScriptUnit.Declares package (.classUnit abstract name parent capabilities members) d
  | ofInterface {name : String} {members : List ScriptMember} {d : Declaration}
      (hname : InPackage package name d.name) (hkind : d.kind = .interface)
      (habstract : d.kind.isAbstract = true) (hparent : d.parent = none)
      (hcapabilities : d.capabilities = [])
      (hmembers : List.Forall₂ (ScriptMember.Declares true) members d.members) :
      ScriptUnit.Declares package (.interfaceUnit name members) d

theorem inPackage_qualify {package : Option String} (h : ∀ name ∈ package, IsPath name.toList)
    (written : String) : InPackage package written (QualifiedName.qualify package written) := by
  cases package with
  | none => simp [InPackage, QualifiedName.qualify]
  | some name =>
    -- a path is never empty, so the package has a name
    have hname : name.isEmpty = false := by
      obtain ⟨first, rest, hletters, -⟩ := Script.solid_of_isPath (h name rfl)
      have hne : name ≠ "" := by
        rintro rfl
        cases hletters
      simpa using hne
    by_cases hdot : '.' ∈ written.toList
    · simp [InPackage, QualifiedName.qualify, QualifiedName.isDotted, hdot]
    · simp [InPackage, QualifiedName.qualify, QualifiedName.isDotted, hdot, hname]

/-- A step that succeeds on every element with a related result succeeds on the whole list. -/
theorem exists_mapM_forall₂ {ε α β : Type} {f : α → Except ε β} {r : α → β → Prop} {xs : List α}
    (h : ∀ x ∈ xs, ∃ y, f x = .ok y ∧ r x y) : ∃ ys, xs.mapM f = .ok ys ∧ List.Forall₂ r xs ys := by
  induction xs with
  | nil => exact ⟨[], rfl, .nil⟩
  | cons x xs ih =>
    obtain ⟨hfirst, hothers⟩ := List.forall_mem_cons.1 h
    obtain ⟨y, hy, hrelated⟩ := hfirst
    obtain ⟨ys, hys, hall⟩ := ih hothers
    exact ⟨y :: ys, Except.mapM_cons_eq_ok_iff.2 ⟨y, ys, hy, hys, rfl⟩, .cons hrelated hall⟩

theorem ScriptMember.Printable.exists_member {written : ScriptMember} (h : written.Printable)
    (inInterface : Bool) :
    ∃ member, written.member inInterface = .ok member ∧ written.Declares inInterface member := by
  have hparams : ∀ param ∈ written.params, ∃ type,
      param.type = .ok type ∧ param = .known type := by
    intro param hparam
    obtain ⟨type, rfl⟩ := h.params_known param hparam
    exact ⟨type, rfl, rfl⟩
  obtain ⟨types, htypes, hknown⟩ := exists_mapM_forall₂ hparams
  have hmap : written.params = types.map .known :=
    List.forall₂_eq_eq_eq ▸ List.forall₂_map_right_iff.2 hknown
  -- so the one check on the types is passed
  have hlast : ParamType.stringGroup ∉ types.dropLast := by
    intro hgroup
    apply h.group_last
    rw [hmap, ← List.map_dropLast]
    exact List.mem_map_of_mem hgroup
  refine ⟨⟨⟨written.name, ⟨types⟩⟩, written.word.kind inInterface, written.body⟩, ?_, ?_⟩
  · refine Except.bind_eq_ok_iff.2 ⟨types, htypes, ?_⟩
    rw [if_neg hlast]
    rfl
  · refine ⟨rfl, hmap, fun hword => ?_, fun hword => ?_, rfl⟩
    · rw [hword]
      rfl
    · cases hcase : written.word with
      | static => exact absurd hcase hword
      | _ => rfl

theorem ScriptUnit.Printable.exists_declaration {package : Option String}
    (hpackage : ∀ name ∈ package, IsPath name.toList) {written : ScriptUnit}
    (h : written.Printable) :
    ∃ d, written.declaration package = .ok d ∧ written.Declares package d := by
  have hname := inPackage_qualify hpackage
  have hmembers : ∀ inInterface, ∃ members,
      written.members.mapM (ScriptMember.member inInterface) = .ok members ∧
        List.Forall₂ (ScriptMember.Declares inInterface) written.members members :=
    fun inInterface => exists_mapM_forall₂ fun member hmember =>
      (h.members_printable member hmember).exists_member inInterface
  cases written with
  | classUnit abstract name parent capabilities members =>
    obtain ⟨lowered, hlowered, hdeclares⟩ := hmembers false
    refine ⟨_, Except.bind_eq_ok_iff.2 ⟨lowered, hlowered, rfl⟩, ?_⟩
    have hcapabilities : List.Forall₂ (InPackage package) capabilities
        (capabilities.map (QualifiedName.qualify package)) :=
      List.forall₂_map_right_iff.2 (List.forall₂_same.2 fun capability _ => hname capability)
    have hparent : Option.Rel (InPackage package) parent
        (parent.map (QualifiedName.qualify package)) := by
      cases parent with
      | none => exact .none
      | some above => exact .some (hname above)
    exact .ofClass (hname name) rfl hparent hcapabilities hdeclares
  | interfaceUnit name members =>
    obtain ⟨lowered, hlowered, hdeclares⟩ := hmembers true
    refine ⟨_, Except.bind_eq_ok_iff.2 ⟨lowered, hlowered, rfl⟩, ?_⟩
    exact .ofInterface (hname name) rfl rfl rfl rfl hdeclares

/-- The text of a printable script parses to the declarations it stands for, in order. -/
theorem Script.parse_text_declares {script : Script} (h : script.Printable) :
    ∃ declarations, Script.parse script.text = .ok declarations ∧
      List.Forall₂ (ScriptUnit.Declares script.package) script.units declarations := by
  obtain ⟨declarations, hlowered, hdeclares⟩ := exists_mapM_forall₂ fun unit hunit =>
    (h.units_printable unit hunit).exists_declaration h.package_path
  exact ⟨declarations, Except.bind_eq_ok_iff.2 ⟨script, read_text h, hlowered⟩, hdeclares⟩

/-! ## Keywords for names -/

-- Through `List.all`: the letters are few, and there are too many characters to go through them.
instance : DecidablePred IsIdent
  | [] => isFalse (by rintro ⟨_, _, h, -⟩; cases h)
  | first :: rest =>
    decidable_of_iff (Script.isIdentStart first = true ∧ rest.all Script.isIdentRest = true) <| by
      simp [IsIdent, Script.isIdentStart, Script.isIdentRest, or_assoc]

/-- A script that uses keywords as names and whose body text looks like the rest of a script. -/
def keywordScript : Script where
  package := some "package.class"
  units := [
    .classUnit true "extends" (some "implements") ["abstract", "int.static"]
      [⟨.override, "virtual", [.known .string, .known .stringGroup],
          some (.transfer "; // \x7d\n")⟩,
       ⟨.abstract, "default", [], none⟩],
    .interfaceUnit "interface" [⟨.static, "String", [.known .string], some (.raise "")⟩]]

example : keywordScript.tokens = ["package", "package.class", ";",
    "abstract", "class", "extends", "extends", "implements", "implements", "abstract", ",",
    "int.static", "\x7b", "override", "virtual", "(", "String", ",", "String", "...", ")", "=",
    "transfer", "\"; // \x7d\n\"", ";", "abstract", "default", "(", ")", ";", "\x7d",
    "interface", "interface", "\x7b", "static", "String", "(", "String", ")", "=", "raise", "\"\"",
    ";", "\x7d"] := rfl

theorem keywordScript_printable : keywordScript.Printable where
  package_path := by
    rintro _ ⟨⟩
    exact ⟨["package".toList, "class".toList], by decide, by decide, by decide⟩
  units_printable := by
    have hdotted : IsPath "int.static".toList :=
      ⟨["int".toList, "static".toList], by decide, by decide, by decide⟩
    have hplain : ∀ name ∈ ["extends", "implements", "abstract", "interface"],
        IsPath name.toList := by
      have hidents : ∀ name ∈ ["extends", "implements", "abstract", "interface"],
          IsIdent name.toList := by
        decide
      exact fun name hname => Script.isPath_of_isIdent (hidents name hname)
    intro unit hunit
    simp only [keywordScript, List.mem_cons, List.not_mem_nil, or_false] at hunit
    rcases hunit with rfl | rfl
    · refine ⟨?_, ?_⟩
      · simp only [ScriptUnit.names, Option.toList, List.singleton_append, List.forall_mem_cons]
        exact ⟨hplain _ (by decide), hplain _ (by decide), hplain _ (by decide), hdotted,
          List.forall_mem_nil _⟩
      · intro member hmember
        simp only [ScriptUnit.members, List.mem_cons, List.not_mem_nil, or_false] at hmember
        rcases hmember with rfl | rfl
        · exact ⟨by decide, by simp, by decide, by simp [Body.text]⟩
        · exact ⟨by decide, by simp, by decide, by simp⟩
    · refine ⟨?_, ?_⟩
      · exact List.forall_mem_singleton.2 (hplain _ (by decide))
      · intro member hmember
        simp only [ScriptUnit.members, List.mem_cons, List.not_mem_nil, or_false] at hmember
        subst hmember
        exact ⟨by decide, by simp, by decide, by simp [Body.text]⟩

/-- The script with keywords for names is read back. -/
theorem Script.parse_keywordScript : keywordScript.Printable ∧
    ∃ declarations, Script.parse keywordScript.text = .ok declarations ∧
      List.Forall₂ (ScriptUnit.Declares keywordScript.package) keywordScript.units declarations :=
  ⟨keywordScript_printable, Script.parse_text_declares keywordScript_printable⟩

end Linkage
