import Linkage.Proofs.Except
import Linkage.Proofs.TokenRows
import Linkage.Repository.Payload

/-!
# Parsed units

What the grammar lets pass holds of everything that is made of it. `Rule.Yields` says that a rule
reads only values with a property, and there is one lemma for each way of putting rules together.
The property followed through the grammar is how names and texts are spelled (`Script.Spelled`):
members are named by identifiers, units by dotted paths of them, and body texts hold no double
quote, since the rule for quoted texts ends at the first one. `Payload.unquoted_of_registry` carries
the last part on to the units of a whole payload, as no later stage touches a text.
-/

namespace Linkage

namespace Script.Rule

variable {α β : Type}

/-- Every value a rule reads has a property. -/
def Yields (rule : Rule α) (property : α → Prop) : Prop :=
  ∀ text a rest, (rule text).outcome = some (a, rest) → property a

variable {rule : Rule α} {property : α → Prop}

/-! ## Rules made of rules -/

theorem yields_pure {a : α} (h : property a) : (pure a : Rule α).Yields property := by
  intro text found rest hfound
  rw [outcome_pure] at hfound
  cases hfound
  exact h

theorem Yields.bind {next : α → Rule β} {outer : β → Prop} (h : rule.Yields property)
    (hnext : ∀ a, property a → (next a).Yields outer) : (rule >>= next).Yields outer := by
  intro text b rest hb
  rw [outcome_bind] at hb
  obtain ⟨⟨a, behind⟩, ha, hb⟩ := Option.bind_eq_some_iff.1 hb
  exact hnext a (h text a behind ha) behind b rest hb

/-- Where the value of the first rule does not matter, it is enough to look at the second. -/
theorem yields_after {next : α → Rule β} {outer : β → Prop} (hnext : ∀ a, (next a).Yields outer) :
    (rule >>= next).Yields outer := by
  have hany : rule.Yields fun _ => True := fun _ _ _ _ => trivial
  exact hany.bind fun a _ => hnext a

theorem Yields.named (h : rule.Yields property) : rule.named.Yields property := by
  intro text a rest ha
  rw [outcome_named] at ha
  exact h text a rest ha

theorem Yields.orElse {other : Rule α} (h : rule.Yields property) (hother : other.Yields property) :
    (Rule.orElse rule other).Yields property := by
  intro text a rest ha
  rw [outcome_orElse, Option.or_eq_some_iff] at ha
  rcases ha with ha | ⟨-, ha⟩
  · exact h text a rest ha
  · exact hother text a rest ha

theorem Yields.optional (h : rule.Yields property) :
    rule.optional.Yields fun found => ∀ a ∈ found, property a := by
  apply Yields.orElse
  · refine h.bind fun a ha => yields_pure ?_
    rintro _ ⟨⟩
    exact ha
  · refine yields_pure ?_
    simp

/-- A repetition takes one step or stops. -/
theorem outcome_repeated (rule : Rule α) (text : List Char) :
    (rule.repeated text).outcome = some ([], text) ∨
      ∃ a rest, rest.length < text.length ∧ (rule text).outcome = some (a, rest) ∧
        (rule.repeated text).outcome =
          (rule.repeated rest).outcome.map fun found => (a :: found.1, found.2) := by
  cases h : (rule text).outcome with
  | none => exact Or.inl (outcome_repeated_of_none h)
  | some found =>
    obtain ⟨a, rest⟩ := found
    by_cases hless : rest.length < text.length
    · exact Or.inr ⟨a, rest, hless, rfl, outcome_repeated_of_some h hless⟩
    · left
      rw [repeated]
      simp only [h, if_neg hless]

theorem Yields.repeated (h : rule.Yields property) :
    rule.repeated.Yields fun found => ∀ a ∈ found, property a := by
  intro text
  -- the text left is shorter after every step
  induction hlength : text.length using Nat.strongRecOn generalizing text with
  | ind length ih =>
    intro found rest hfound
    rcases outcome_repeated rule text with hstop | ⟨a, behind, hless, ha, hstep⟩
    · rw [hstop] at hfound
      cases hfound
      simp
    · rw [hstep] at hfound
      obtain ⟨⟨more, last⟩, hmore, hpair⟩ := Option.map_eq_some_iff.1 hfound
      cases hpair
      have hall := ih behind.length (hlength ▸ hless) behind rfl more last hmore
      intro b hb
      rcases List.mem_cons.1 hb with rfl | hb
      · exact h text b behind ha
      · exact hall b hb

theorem Yields.many (h : rule.Yields property) :
    rule.many.Yields fun found => ∀ a ∈ found, property a := by
  refine h.optional.bind fun first hfirst => ?_
  cases first with
  | none =>
    refine yields_pure ?_
    simp
  | some a =>
    have hitem : (gap >>= fun _ => rule).Yields property := yields_after fun _ => h
    refine hitem.repeated.bind fun more hmore => ?_
    refine yields_pure ?_
    exact List.forall_mem_cons.2 ⟨hfirst a rfl, hmore⟩

theorem Yields.commaSeparated (h : rule.Yields property) :
    rule.commaSeparated.Yields fun found => ∀ a ∈ found, property a := by
  refine h.bind fun first hfirst => yields_after fun _ => ?_
  have hitem : (word "," >>= fun _ => gap >>= fun _ => rule).Yields property :=
    yields_after fun _ => yields_after fun _ => h
  refine hitem.many.bind fun more hmore => ?_
  exact yields_pure (List.forall_mem_cons.2 ⟨hfirst, hmore⟩)

/-- The text of a token has the property that the scan of the token ensures. -/
theorem yields_ofScan {scan : List Char → Option (List Char × List Char)} {ensured : List Char → Prop}
    (h : ∀ text found rest, scan text = some (found, rest) → ensured found) :
    ((ofScan scan).named >>= fun found => value (String.ofList found)).Yields
      fun token => ensured token.toList := by
  have hscan : (ofScan scan).Yields ensured := h
  refine hscan.named.bind fun found hfound => ?_
  refine yields_pure ?_
  rwa [String.toList_ofList]

/-- A choice among words yields what one of the words stands for. -/
theorem yields_choice {words : List (String × α)} (h : ∀ entry ∈ words, property entry.2) :
    (choice words).Yields property := by
  induction words with
  | nil =>
    intro text a rest ha
    cases ha
  | cons entry words ih =>
    rw [choice, List.foldr_cons]
    apply Yields.orElse
    · apply yields_after
      intro _
      exact yields_pure (h entry List.mem_cons_self)
    · exact ih fun other hother => h other (List.mem_cons_of_mem _ hother)

end Script.Rule

/-! ## Spelling -/

/-- Whether the text of a body holds no double quote. -/
def Body.Unquoted (body : Body) : Prop := '"' ∉ body.text.toList

/-- Whether all bodies of a declaration have texts without double quotes. -/
def Declaration.Unquoted (d : Declaration) : Prop :=
  ∀ member ∈ d.members, ∀ body ∈ member.body, body.Unquoted

/-- Whether all units of a registry have bodies without double quotes. -/
def Registry.Unquoted (registry : Registry) : Prop :=
  ∀ unit ∈ registry.units, unit.declaration.Unquoted

/-- Whether all bodies of written members have texts without double quotes. -/
def ScriptMember.AllUnquoted (members : List ScriptMember) : Prop :=
  ∀ member ∈ members, ∀ body ∈ member.body, body.Unquoted

/-- How the parts of a written member are spelled. Its parameters may still be refused. -/
structure ScriptMember.Spelled (written : ScriptMember) : Prop where
  name_ident : IsIdent written.name.toList
  body_unquoted : ∀ body ∈ written.body, body.Unquoted

/-- How the parts of a written unit are spelled. -/
structure ScriptUnit.Spelled (written : ScriptUnit) : Prop where
  names_paths : ∀ name ∈ written.names, IsPath name.toList
  members_spelled : ∀ member ∈ written.members, member.Spelled

/-- How the parts of a script are spelled. -/
structure Script.Spelled (script : Script) : Prop where
  package_path : ∀ package ∈ script.package, IsPath package.toList
  units_spelled : ∀ unit ∈ script.units, unit.Spelled

theorem ScriptUnit.Spelled.allUnquoted {written : ScriptUnit} (h : written.Spelled) :
    ScriptMember.AllUnquoted written.members :=
  fun member hmember => (h.members_spelled member hmember).body_unquoted

namespace Script.Rule

/-- A quoted text ends at the first quote behind the opening one. -/
theorem quote_notMem_of_scanQuoted {text inner rest : List Char}
    (h : scanQuoted text = some (inner, rest)) : '"' ∉ inner := by
  unfold scanQuoted at h
  split at h
  · split at h
    · cases h
    · cases h
      intro hmem
      have hne := List.all_eq_true.1 List.all_takeWhile '"' hmem
      simp at hne
  · cases h

theorem yields_quoted : quoted.Yields fun text => '"' ∉ text.toList :=
  yields_ofScan fun _ _ _ h => quote_notMem_of_scanQuoted h

theorem yields_ident : ident.Yields fun name => IsIdent name.toList :=
  yields_ofScan fun _ _ _ h => (isIdent_of_scanIdent h).1

theorem yields_path : path.Yields fun name => IsPath name.toList :=
  yields_ofScan fun _ _ _ h => (isPath_of_scanPath h).1

/-- Whatever a body does, its text is the text it was given. -/
theorem yields_bodyWord : bodyWord.Yields fun make => ∀ text, (make text).text = text := by
  apply Yields.named
  apply yields_choice
  intro entry hentry text
  simp only [List.mem_cons, List.not_mem_nil, or_false] at hentry
  rcases hentry with rfl | rfl | rfl <;> rfl

theorem yields_bodyClause : bodyClause.Yields Body.Unquoted := by
  apply Yields.named
  refine yields_after fun _ => yields_after fun _ => ?_
  refine yields_bodyWord.bind fun make hmake => ?_
  refine yields_after fun _ => ?_
  refine yields_quoted.bind fun text htext => ?_
  refine yields_pure ?_
  rwa [Body.Unquoted, hmake]

theorem yields_member : member.Yields ScriptMember.Spelled := by
  apply Yields.named
  -- between the word and the semicolon, only the name and the body matter
  iterate 2 refine yields_after fun _ => ?_
  refine yields_ident.bind fun name hname => ?_
  iterate 7 refine yields_after fun _ => ?_
  refine yields_bodyClause.optional.bind fun body hbody => ?_
  iterate 2 refine yields_after fun _ => ?_
  exact yields_pure ⟨hname, hbody⟩

theorem yields_memberBlock :
    memberBlock.Yields fun found => ∀ member ∈ found, member.Spelled := by
  iterate 2 refine yields_after fun _ => ?_
  refine yields_member.many.bind fun members hmembers => ?_
  iterate 2 refine yields_after fun _ => ?_
  exact yields_pure hmembers

theorem yields_extendsClause : extendsClause.Yields fun name => IsPath name.toList := by
  apply Yields.named
  iterate 2 refine yields_after fun _ => ?_
  exact yields_path

theorem yields_implementsClause :
    implementsClause.Yields fun names => ∀ name ∈ names, IsPath name.toList := by
  apply Yields.named
  iterate 2 refine yields_after fun _ => ?_
  exact yields_path.commaSeparated

theorem yields_classUnit : classUnit.Yields ScriptUnit.Spelled := by
  apply Yields.named
  iterate 4 refine yields_after fun _ => ?_
  refine yields_path.bind fun name hname => yields_after fun _ => ?_
  refine yields_extendsClause.optional.bind fun parent hparent => yields_after fun _ => ?_
  refine yields_implementsClause.optional.bind fun found hfound => yields_after fun _ => ?_
  refine yields_memberBlock.bind fun members hmembers => yields_pure ⟨?_, hmembers⟩
  have hcapabilities : ∀ capability ∈ found.getD [], IsPath capability.toList := by
    cases found with
    | none => exact List.forall_mem_nil _
    | some capabilities => exact hfound capabilities rfl
  refine List.forall_mem_cons.2 ⟨hname, List.forall_mem_append.2 ⟨fun above habove => ?_, ?_⟩⟩
  · exact hparent above (Option.mem_toList.1 habove)
  · exact hcapabilities

theorem yields_interfaceUnit : interfaceUnit.Yields ScriptUnit.Spelled := by
  apply Yields.named
  iterate 2 refine yields_after fun _ => ?_
  refine yields_path.bind fun name hname => yields_after fun _ => ?_
  refine yields_memberBlock.bind fun members hmembers => yields_pure ⟨?_, hmembers⟩
  exact List.forall_mem_singleton.2 hname

theorem yields_packageClause : packageClause.Yields fun name => IsPath name.toList := by
  apply Yields.named
  iterate 2 refine yields_after fun _ => ?_
  refine yields_path.bind fun name hname => ?_
  iterate 2 refine yields_after fun _ => ?_
  exact yields_pure hname

theorem yields_script : script.Yields Script.Spelled := by
  have hunit : unit.Yields ScriptUnit.Spelled := (yields_classUnit.orElse yields_interfaceUnit).named
  apply Yields.named
  refine yields_after fun _ => ?_
  refine yields_packageClause.optional.bind fun package hpackage => yields_after fun _ => ?_
  refine hunit.many.bind fun units hunits => ?_
  iterate 2 refine yields_after fun _ => ?_
  exact yields_pure ⟨hpackage, hunits⟩

end Script.Rule

/-! ## From texts to registries -/

/-- What a written member is lowered to, if its types are known and a string group is the last. -/
theorem ScriptMember.member_eq_ok_iff {inInterface : Bool} {written : ScriptMember}
    {member : Member} : written.member inInterface = .ok member ↔
      ∃ types, written.params.mapM ScriptParam.type = .ok types ∧
        ParamType.stringGroup ∉ types.dropLast ∧
        member = ⟨⟨written.name, ⟨types⟩⟩, written.word.kind inInterface, written.body⟩ := by
  refine Except.bind_eq_ok_iff.trans (exists_congr fun types => and_congr_right fun _ => ?_)
  dsimp only
  split
  · next hgroup =>
    constructor
    · rintro ⟨⟩
    · exact fun h => absurd hgroup h.1
  · next hgroup =>
    constructor
    · rintro ⟨⟩
      exact ⟨hgroup, rfl⟩
    · rintro ⟨-, rfl⟩
      rfl

/-- The members of a unit are lowered one by one, for the kind of unit they stand in. -/
theorem ScriptUnit.members_of_declaration {package : Option String} {written : ScriptUnit}
    {d : Declaration} (h : written.declaration package = .ok d) :
    written.members.mapM (ScriptMember.member (d.kind = .interface)) = .ok d.members := by
  cases written with
  | classUnit abstract name parent capabilities members =>
    obtain ⟨lowered, hlowered, h⟩ := Except.bind_eq_ok_iff.1 h
    cases h
    cases abstract <;> exact hlowered
  | interfaceUnit name members =>
    obtain ⟨lowered, hlowered, h⟩ := Except.bind_eq_ok_iff.1 h
    cases h
    exact hlowered

theorem ScriptMember.unquoted_of_mapM {inInterface : Bool} {written : List ScriptMember}
    {members : List Member} (hwritten : AllUnquoted written)
    (h : written.mapM (ScriptMember.member inInterface) = .ok members) :
    ∀ member ∈ members, ∀ body ∈ member.body, body.Unquoted := by
  intro member hmember body hbody
  obtain ⟨source, hsource, hlowered⟩ := Except.exists_of_mem_mapM h hmember
  obtain ⟨_, -, -, rfl⟩ := member_eq_ok_iff.1 hlowered
  exact hwritten source hsource body hbody

theorem ScriptUnit.unquoted_of_declaration {package : Option String} {written : ScriptUnit}
    {d : Declaration} (hwritten : ScriptMember.AllUnquoted written.members)
    (h : written.declaration package = .ok d) : d.Unquoted :=
  ScriptMember.unquoted_of_mapM hwritten (members_of_declaration h)

/-- A text that is read at all is read by the rule for scripts. -/
theorem Script.outcome_of_read {text : List Char} {script : Script}
    (h : Script.read text = .ok script) : ∃ rest, (Rule.script text).outcome = some (script, rest) := by
  rw [Script.read] at h
  dsimp only at h
  split at h
  · next found rest hfound =>
    cases h
    exact ⟨rest, hfound⟩
  · cases h

/-- What is read as a script is spelled like one. -/
theorem Script.spelled_of_read {text : List Char} {script : Script}
    (h : Script.read text = .ok script) : script.Spelled := by
  obtain ⟨rest, hscript⟩ := outcome_of_read h
  exact Rule.yields_script text script rest hscript

/-- No body text of a parsed script holds a double quote. -/
theorem Script.unquoted_of_parse {text : String} {declarations : List Declaration}
    (h : Script.parse text = .ok declarations) : ∀ d ∈ declarations, d.Unquoted := by
  obtain ⟨script, hread, h⟩ := Except.bind_eq_ok_iff.1 h
  intro d hd
  obtain ⟨written, hwritten, hlowered⟩ := Except.exists_of_mem_mapM h hd
  have hspelled := (spelled_of_read hread).units_spelled written hwritten
  exact ScriptUnit.unquoted_of_declaration hspelled.allUnquoted hlowered

namespace Payload

/-- The bytes of a text come to what the text parses to. -/
theorem registry_toUTF8 (stamp : Nat) (text : String) :
    registry stamp text.toUTF8 = parse text >>= register stamp := by
  rw [registry, declarations_toUTF8]

theorem unquoted_of_declarations {bytes : ByteArray} {declarations : List Declaration}
    (h : Payload.declarations bytes = .ok declarations) : ∀ d ∈ declarations, d.Unquoted := by
  rw [Payload.declarations] at h
  split at h
  · exact Script.unquoted_of_parse (Except.mapError_eq_ok_iff.1 h)
  · cases h

theorem unquoted_of_register {stamp : Nat} {declarations : List Declaration} {registry : Registry}
    (hdeclarations : ∀ d ∈ declarations, d.Unquoted)
    (h : Payload.register stamp declarations = .ok registry) : registry.Unquoted := by
  intro unit hunit
  obtain ⟨d, hd, hid⟩ := Registry.id_of_mem_ofDeclarations (Except.mapError_eq_ok_iff.1 h) unit hunit
  have hdeclaration : unit.declaration = d := by rw [CodeUnit.declaration, hid]
  exact hdeclaration ▸ hdeclarations d hd

/-- No body text of a payload's units holds a double quote. -/
theorem unquoted_of_registry {stamp : Nat} {bytes : ByteArray} {registry : Registry}
    (h : Payload.registry stamp bytes = .ok registry) : registry.Unquoted := by
  obtain ⟨declarations, hdeclarations, h⟩ := Except.bind_eq_ok_iff.1 h
  exact unquoted_of_register (unquoted_of_declarations hdeclarations) h

end Payload

end Linkage
