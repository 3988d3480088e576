import Linkage.Proofs.InsertedGaps

/-!
# Package clauses

A package clause in front of a script does nothing but qualify names. The clause is read to its
semicolon whatever follows (`Rule.outcome_packageClause`), and behind it the script is read as it
would be without one, so both texts hold the same units or both are refused (`Script.rel_read`).
Lowering then sees the package only where a name is qualified, and qualifying an unqualified
declaration afterwards comes to the same (`ScriptUnit.declaration_some`).

The text behind the clause may not begin with the word `package`: a clause of its own would be read
without the other one, and no unit begins with it behind the other one.
-/

namespace Linkage

namespace Script.Rule

variable {name : String} {text rest : List Char}

/-! ## The clause and what follows it -/

/-- A rule behind a gap reads what is past it. -/
theorem outcome_after_gap {α : Type} (rule : Rule α) (text : List Char) :
    ((gap >>= fun _ => rule) text).outcome = (rule (pastGap text)).outcome := by
  rw [outcome_bind]
  rfl

theorem outcome_path (h : IsPath name.toList) (hends : EndsIdent rest)
    (hdot : rest.head? ≠ some '.') : (path (name.toList ++ rest)).outcome = some (name, rest) := by
  rw [path, outcome_bind, outcome_named, ofScan, scanPath_of_isPath h hends hdot, Option.bind_some,
    String.ofList_toList]
  rfl

/-- The clause of a package is read in front of anything. -/
theorem outcome_packageClause (h : IsPath name.toList) (behind : List Char) :
    (packageClause ("package".toList ++ ' ' :: (name.toList ++ ';' :: behind))).outcome =
      some (name, behind) := by
  have hblank : IsGap [' '] := .blank rfl .nil
  have hname : pastGap (' ' :: (name.toList ++ ';' :: behind)) = name.toList ++ ';' :: behind :=
    (hblank.pastGap_append _).trans (pastGap_of_solid ((solid_of_isPath h).append _))
  have hsolid : Solid (';' :: behind) := ⟨';', behind, rfl, by decide⟩
  have hends : EndsIdent (';' :: behind) := by
    rintro c ⟨⟩
    rfl
  have hdot : (';' :: behind).head? ≠ some '.' := by simp
  have hend : (word ";" (';' :: behind)).outcome = some ((), behind) :=
    outcome_word_append ";" behind
  -- word, name and semicolon one after the other, each from where the gap in front of it ends
  rw [packageClause, outcome_named, outcome_bind, outcome_word_append, Option.bind_some,
    outcome_after_gap, hname, outcome_bind, outcome_path h hends hdot, Option.bind_some,
    outcome_after_gap, pastGap_of_solid hsolid, outcome_bind, hend]
  rfl

/-- No package is named where the word for it is missing. -/
theorem refuses_packageClause (hpast : pastGap text = text)
    (hword : ¬ "package".toList <+: text) : (packageClause text).outcome = none := by
  have hopens : packageClause.Opens ["package"] := (opens_word "package").bind.named
  cases hread : (packageClause text).outcome with
  | none => rfl
  | some found =>
    obtain ⟨word, hmem, hbegins⟩ := hopens text found.1 found.2 hpast hread
    rw [List.mem_singleton.1 hmem] at hbegins
    exact absurd hbegins hword

/-- The units of a script, from the gap in front of them to the end of the text. -/
def unitParts : Rule (List ScriptUnit) := do
  let _ ← gap
  let units ← many unit
  let _ ← gap
  finish
  return units

/-- Behind its package clause, a script is its units. -/
theorem outcome_scriptParts (text : List Char) :
    (scriptParts text).outcome = (optional packageClause text).outcome.bind fun found =>
      (unitParts found.2).outcome.map fun parts => (⟨found.1, parts.1⟩, parts.2) := by
  simp only [scriptParts, unitParts, outcome_bind, Option.map_bind, Function.comp_def, outcome_pure,
    Option.map_some]

theorem outcome_unitParts_pastGap (text : List Char) :
    (unitParts (pastGap text)).outcome = (unitParts text).outcome := by
  rw [unitParts, outcome_after_gap, outcome_after_gap, pastGap_pastGap]

/-- With a package clause in front, the units behind the clause are those of the package. -/
theorem outcome_script_of_package (h : IsPath name.toList) (behind : List Char) :
    (script ("package".toList ++ ' ' :: (name.toList ++ ';' :: behind))).outcome =
      (unitParts behind).outcome.map fun parts => (⟨some name, parts.1⟩, parts.2) := by
  have hword : Solid "package".toList := by decide
  rw [outcome_script, pastGap_of_solid (hword.append _), outcome_scriptParts, optional,
    outcome_orElse, outcome_bind, outcome_packageClause h]
  rfl

/-- Without one, the units stand in no package. -/
theorem outcome_script_of_not_package (hword : ¬ "package".toList <+: pastGap text) :
    (script text).outcome =
      (unitParts text).outcome.map fun parts => (⟨none, parts.1⟩, parts.2) := by
  rw [outcome_script, outcome_scriptParts, optional, outcome_orElse, outcome_bind,
    refuses_packageClause (pastGap_pastGap text) hword, ← outcome_unitParts_pastGap text]
  rfl

end Script.Rule

/-- A script that names no package is read the same behind a package clause, or refused as well. -/
theorem Script.rel_read {package : String} {text : List Char} (h : IsPath package.toList)
    (hword : ¬ "package".toList <+: Script.pastGap text) :
    Except.Rel (fun _ _ => True)
      (fun script packaged => script.package = none ∧
        packaged = { script with package := some package })
      (Script.read text)
      (Script.read ("package".toList ++ ' ' :: (package.toList ++ ';' :: ' ' :: text))) := by
  have hblank : IsGap [' '] := .blank rfl .nil
  have hunits : (Rule.unitParts (' ' :: text)).outcome = (Rule.unitParts text).outcome := by
    rw [← Rule.outcome_unitParts_pastGap, ← Rule.outcome_unitParts_pastGap text]
    exact congrArg (fun past => (Rule.unitParts past).outcome) (hblank.pastGap_append text)
  -- the marks of the two runs differ, but they only say where a refusal is reported
  rw [Script.read, Script.read]
  dsimp only
  rw [Rule.outcome_script_of_package h, Rule.outcome_script_of_not_package hword, hunits]
  cases (Rule.unitParts text).outcome with
  | none => exact .error trivial
  | some parts => exact .ok ⟨rfl, rfl⟩

/-! ## Qualifying afterwards -/

/-- A declaration with all names in its head put into a package. -/
def Declaration.inPackage (package : String) (d : Declaration) : Declaration :=
  { d with
    name := QualifiedName.qualify (some package) d.name.text
    parent := d.parent.map fun above => QualifiedName.qualify (some package) above.text
    capabilities := d.capabilities.map fun capability =>
      QualifiedName.qualify (some package) capability.text }

/-- What a unit declares in a package is what it declares in none, put into the package. -/
theorem ScriptUnit.declaration_some (package : String) (written : ScriptUnit) :
    written.declaration (some package) =
      (written.declaration none).map (Declaration.inPackage package) := by
  cases written with
  | classUnit abstract name parent capabilities members =>
    simp only [declaration]
    cases members.mapM (ScriptMember.member false) with
    | error e => rfl
    | ok lowered =>
      cases parent <;> simp [Declaration.inPackage, QualifiedName.qualify_none, Except.map,
        Function.comp_def, pure, Except.pure]
  | interfaceUnit name members =>
    simp only [declaration]
    cases members.mapM (ScriptMember.member true) <;> rfl

theorem Script.declarations_of_package {script : Script} (h : script.package = none)
    (package : String) : Script.declarations { script with package := some package } =
      script.declarations.map (List.map (Declaration.inPackage package)) := by
  have hlowered : ScriptUnit.declaration (some package) =
      fun written => (written.declaration none).map (Declaration.inPackage package) :=
    funext (ScriptUnit.declaration_some package)
  rw [Script.declarations, Script.declarations, h, hlowered]
  exact Except.mapM_map _ _ _

/-- The two texts come to the same, but for the package of the declarations. -/
theorem Script.rel_parse {package text : String} (h : IsPath package.toList)
    (hword : ¬ "package".toList <+: Script.pastGap text.toList) :
    Except.Rel (fun _ _ => True)
      (fun declarations packaged => packaged = declarations.map (Declaration.inPackage package))
      (Script.parse text) (Script.parse ("package " ++ package ++ "; " ++ text)) := by
  have hletters : ("package " ++ package ++ "; " ++ text).toList =
      "package".toList ++ ' ' :: (package.toList ++ ';' :: ' ' :: text.toList) := by
    simp
  rw [Script.parse, Script.parse, hletters]
  refine (rel_read h hword).bind ?_
  rintro script _ ⟨hnone, rfl⟩
  rw [declarations_of_package hnone]
  cases script.declarations with
  | error error => exact .error trivial
  | ok declarations => exact .ok rfl

/-- A package clause in front of a text acts by qualification only. The text is refused with it
exactly when it is refused without it, and otherwise it holds the same declarations, with all names
in their heads put into the package: those without a dot get the package and a dot in front, the
others stay. -/
theorem Script.parse_package {package text : String} (h : IsPath package.toList)
    (hword : ¬ "package".toList <+: Script.pastGap text.toList) :
    ((∃ error, Script.parse ("package " ++ package ++ "; " ++ text) = .error error) ↔
      ∃ error, Script.parse text = .error error) ∧
    (∀ declarations, Script.parse text = .ok declarations →
      Script.parse ("package " ++ package ++ "; " ++ text) =
        .ok (declarations.map (Declaration.inPackage package))) ∧
    ∀ name, (QualifiedName.qualify (some package) name).text =
      if '.' ∈ name.toList then name else package ++ "." ++ name := by
  have hparse := rel_parse h hword
  have hpath : ∀ name ∈ some package, IsPath name.toList := by
    rintro _ ⟨⟩
    exact h
  refine ⟨?_, ?_, inPackage_qualify hpath⟩
  · rcases hparse.cases with ⟨error, error', hfirst, hsecond, -⟩ | ⟨_, _, hfirst, hsecond, -⟩
    · exact ⟨fun _ => ⟨error, hfirst⟩, fun _ => ⟨error', hsecond⟩⟩
    · rw [hfirst, hsecond]
      constructor <;> rintro ⟨_, ⟨⟩⟩
  · intro declarations hfirst
    rw [hfirst] at hparse
    obtain ⟨packaged, hsecond, rfl⟩ := hparse.exists_ok
    exact hsecond

/-! ## A comment, and a second package -/

/-- A class whose parent has a package and whose capability has none, behind a comment that looks
like a package clause. -/
def commentedText : String := "// package q;\nclassA extendsq.B implementsC\x7b\x7d"

/-- The class comes out in the package with its own capability, and with its parent as it was. -/
theorem Script.parse_commentedText :
    Script.parse ("package " ++ "x.y" ++ "; " ++ commentedText) =
      .ok [⟨⟨"x.y.A"⟩, .concreteClass, some ⟨"q.B"⟩, [⟨"x.y.C"⟩], []⟩] := by
  have hpath : IsPath "x.y".toList := ⟨["x".toList, "y".toList], by decide, by decide, by decide⟩
  have hword : ¬ "package".toList <+: Script.pastGap commentedText.toList := by decide +kernel
  have hplain : Script.parse commentedText =
      .ok [⟨⟨"A"⟩, .concreteClass, some ⟨"q.B"⟩, [⟨"C"⟩], []⟩] := by
    decide +kernel
  exact (parse_package hpath hword).2.1 _ hplain

-- A text that names a package itself is refused behind another clause.
example :
    Script.parse "package q; class A\x7b\x7d" = .ok [⟨⟨"q.A"⟩, .concreteClass, none, [], []⟩] ∧
      Script.parse ("package " ++ "p" ++ "; " ++ "package q; class A\x7b\x7d") =
        .error (.rejected 1 12) := by
  decide +kernel

end Linkage
