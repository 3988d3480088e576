import Linkage.Proofs.ParsedUnits
import Linkage.Proofs.PrintedScripts
import Linkage.Proofs.UnitRules

/-!
# Well-formed declarations

Declarations that are read off a text are well formed, however carelessly the text is laid out.
The grammar takes care of how names and texts are spelled (`Script.Spelled`). Lowering keeps the
spelling, puts a package in front of names without a dot (`isPath_qualify`, `dotted_qualify`), gives
interfaces no parent and no capabilities, and tells the two kinds of static members apart.
`Declaration.WellFormed` names all of it.

What is left to the check of a unit are the rules that are not about spelling: a unit that extends
itself, a kind or a body that does not fit, a key that is there twice. `Declaration.Refused` lists
them, each with the condition that it reports, and `Declaration.refused_of_fault?` says that there
are no others where interfaces have no parents.
-/

namespace Linkage

/-! ## Names -/

/-- Two paths with a dot between them are a path. -/
theorem Script.isPath_join {package name : List Char} (h : IsPath package) (hname : IsPath name) :
    IsPath (package ++ '.' :: name) := by
  obtain ⟨idents, hne, hidents, rfl⟩ := h
  induction idents with
  | nil => exact absurd rfl hne
  | cons ident idents ih =>
    obtain ⟨hident, hothers⟩ := List.forall_mem_cons.1 hidents
    cases idents with
    | nil =>
      rw [List.intercalate_singleton]
      exact isPath_cons hident hname
    | cons next others =>
      rw [List.intercalate_cons_cons, List.append_assoc, List.append_assoc]
      exact isPath_cons hident (ih (List.cons_ne_nil _ _) hothers)

namespace QualifiedName

variable {package : Option String} {written : String}

/-- A path is qualified to a path. -/
theorem isPath_qualify (hpackage : ∀ name ∈ package, IsPath name.toList)
    (h : IsPath written.toList) : IsPath (qualify package written).text.toList := by
  rw [inPackage_qualify hpackage written]
  split
  · exact h
  · cases package with
    | none => exact h
    | some name =>
      have hjoin := Script.isPath_join (hpackage name rfl) h
      simpa using hjoin

/-- A package leaves no name without a dot. -/
theorem dotted_qualify (hpackage : ∀ name ∈ package, IsPath name.toList)
    (hsome : package.isSome = true) : '.' ∈ (qualify package written).text.toList := by
  obtain ⟨name, rfl⟩ := Option.isSome_iff_exists.1 hsome
  rw [inPackage_qualify hpackage written]
  split
  · next hdot => exact hdot
  · simp

end QualifiedName

/-! ## What is well formed -/

/-- Whether the parts of a member are what can be written. -/
structure Member.WellFormed (member : Member) : Prop where
  name_ident : IsIdent member.key.name.toList
  /-- A string group stands last, and so it stands once. -/
  group_last : ParamType.stringGroup ∉ member.key.signature.params.dropLast
  body_unquoted : ∀ body ∈ member.body, body.Unquoted

/-- All names in the head of a declaration. -/
def Declaration.names (d : Declaration) : List QualifiedName :=
  d.name :: (d.parent.toList ++ d.capabilities)

/-- Whether the parts of a declaration are what can be written inside a package. -/
structure Declaration.WellFormed (package : Option String) (d : Declaration) : Prop where
  names_paths : ∀ name ∈ d.names, IsPath name.text.toList
  names_dotted : package.isSome = true → ∀ name ∈ d.names, '.' ∈ name.text.toList
  interface_bare : d.kind = .interface →
    d.kind.isAbstract = true ∧ d.parent = none ∧ d.capabilities = []
  interface_kinds : d.kind = .interface → ∀ member ∈ d.members, member.kind ≠ .static
  class_kinds : d.kind ≠ .interface → ∀ member ∈ d.members, member.kind ≠ .interfaceStatic
  members_wellFormed : ∀ member ∈ d.members, member.WellFormed

/-- Inside an interface a static member is one of the interface. -/
theorem ScriptWord.kind_true_ne (word : ScriptWord) : word.kind true ≠ .static := by
  cases word <;> decide

/-- Inside a class it is one of the class. -/
theorem ScriptWord.kind_false_ne (word : ScriptWord) : word.kind false ≠ .interfaceStatic := by
  cases word <;> decide

theorem ScriptMember.Spelled.wellFormed {inInterface : Bool} {written : ScriptMember}
    {member : Member} (h : written.Spelled) (hlowered : written.member inInterface = .ok member) :
    member.WellFormed ∧ member.kind = written.word.kind inInterface := by
  obtain ⟨types, -, hlast, rfl⟩ := ScriptMember.member_eq_ok_iff.1 hlowered
  exact ⟨⟨h.name_ident, hlast, h.body_unquoted⟩, rfl⟩

namespace ScriptUnit

variable {package : Option String} {written : ScriptUnit} {d : Declaration}

/-- All names of a unit are qualified alike. -/
theorem names_of_declaration (h : written.declaration package = .ok d) :
    d.names = written.names.map (QualifiedName.qualify package) := by
  cases written with
  | classUnit abstract name parent capabilities members =>
    obtain ⟨lowered, -, h⟩ := Except.bind_eq_ok_iff.1 h
    cases h
    cases parent <;> simp [Declaration.names, names]
  | interfaceUnit name members =>
    obtain ⟨lowered, -, h⟩ := Except.bind_eq_ok_iff.1 h
    cases h
    rfl

theorem interface_bare_of_declaration (h : written.declaration package = .ok d)
    (hkind : d.kind = .interface) :
    d.kind.isAbstract = true ∧ d.parent = none ∧ d.capabilities = [] := by
  cases written with
  | classUnit abstract name parent capabilities members =>
    obtain ⟨lowered, -, h⟩ := Except.bind_eq_ok_iff.1 h
    cases h
    cases abstract <;> cases hkind
  | interfaceUnit name members =>
    obtain ⟨lowered, -, h⟩ := Except.bind_eq_ok_iff.1 h
    cases h
    exact ⟨rfl, rfl, rfl⟩

/-- What is spelled well is lowered to a well-formed declaration. -/
theorem Spelled.wellFormed (hpackage : ∀ name ∈ package, IsPath name.toList) (h : written.Spelled)
    (hlowered : written.declaration package = .ok d) : d.WellFormed package := by
  have hnames : ∀ name ∈ d.names, ∃ source ∈ written.names,
      QualifiedName.qualify package source = name := by
    intro name hname
    rw [names_of_declaration hlowered] at hname
    exact List.mem_map.1 hname
  have hmembers : ∀ member ∈ d.members, ∃ word : ScriptWord,
      member.WellFormed ∧ member.kind = word.kind (d.kind = .interface) := by
    intro member hmember
    obtain ⟨source, hsource, hmember⟩ :=
      Except.exists_of_mem_mapM (members_of_declaration hlowered) hmember
    exact ⟨source.word, (h.members_spelled source hsource).wellFormed hmember⟩
  -- each name and each member comes from a written one, which is spelled well
  refine ⟨?_, ?_, interface_bare_of_declaration hlowered, ?_, ?_, ?_⟩
  · intro name hname
    obtain ⟨source, hsource, rfl⟩ := hnames name hname
    exact QualifiedName.isPath_qualify hpackage (h.names_paths source hsource)
  · intro hsome name hname
    obtain ⟨source, -, rfl⟩ := hnames name hname
    exact QualifiedName.dotted_qualify hpackage hsome
  · intro hkind member hmember
    obtain ⟨word, -, hword⟩ := hmembers member hmember
    rw [hword, decide_eq_true hkind]
    exact word.kind_true_ne
  · intro hkind member hmember
    obtain ⟨word, -, hword⟩ := hmembers member hmember
    rw [hword, decide_eq_false hkind]
    exact word.kind_false_ne
  · intro member hmember
    obtain ⟨word, hwellFormed, -⟩ := hmembers member hmember
    exact hwellFormed

end ScriptUnit

/-! ## What is left to be refused -/

/-- The ways in which a declaration is refused that has no parent where it may not have one, each
with the error it is refused with. -/
inductive Declaration.Refused (d : Declaration) : DefinitionError → Prop where
  | ownParent (h : d.parent = some d.name) : d.Refused (d.broken .ownParent)
  | kindNotAllowed {member : Member} (hmember : member ∈ d.members)
      (h : d.kind.allows member.kind = false) :
      d.Refused (d.broken (.kindNotAllowed member.kind member.key))
  | wrongBodyShape {member : Member} (hmember : member ∈ d.members)
      (h : member.wellShaped = false) :
      d.Refused (d.broken (.wrongBodyShape member.kind member.key))
  | duplicateMember {front back : List Member} {member : Member}
      (hmembers : d.members = front ++ member :: back) (h : member.key ∈ front.map Member.key) :
      d.Refused (.duplicateMember d.name member.key.name member.key.signature.text)

namespace Declaration

variable {d : Declaration} {error : DefinitionError}

/-- Every fault of a declaration is one of the ways to be refused. -/
theorem refused_of_fault? (hinterface : d.kind = .interface → d.parent = none)
    (h : d.fault? = some error) : d.Refused error := by
  rw [fault?, Option.or_eq_some_iff] at h
  rcases h with hheader | ⟨-, hmembers⟩
  · -- the one rule of the header that is left is the second
    rw [headerFault?, if_neg fun hboth => hboth.2 (hinterface hboth.1)] at hheader
    split at hheader
    · next hown =>
      cases hheader
      exact .ownParent hown
    · cases hheader
  · obtain ⟨front, member, back, hsplit, offence, -⟩ :=
      membersFault?_eq_some_iff_firstOffence.1 hmembers
    have hmember : member ∈ d.members := by
      rw [hsplit]
      exact List.mem_append_right _ List.mem_cons_self
    cases offence with
    | kind hkind =>
      exact .kindNotAllowed hmember (Bool.eq_false_iff.2 (mt UnitKind.allows_eq_true_iff.1 hkind))
    | body _ hbody =>
      exact .wrongBodyShape hmember (Bool.eq_false_iff.2 (mt Member.wellShaped_eq_true_iff.1 hbody))
    | key _ _ hkey =>
      obtain ⟨earlier, hearlier, hclash⟩ := hkey
      rw [Member.clashes_iff] at hclash
      exact .duplicateMember hsplit (hclash ▸ List.mem_map_of_mem hearlier)

end Declaration

/-! ## Parsed declarations -/

/-- Declarations that are read off a text are well formed inside the package that the text names,
and where one of them is refused, it is for one of the reasons that the grammar does not rule
out. -/
theorem Script.wellFormed_of_parse {text : String} {declarations : List Declaration}
    (h : Script.parse text = .ok declarations) :
    ∃ script, Script.read text.toList = .ok script ∧ ∀ d ∈ declarations,
      d.WellFormed script.package ∧
        ∀ stamp error, CodeUnit.define stamp d = .error error → d.Refused error := by
  obtain ⟨script, hread, hlowered⟩ := Except.bind_eq_ok_iff.1 h
  have hspelled := spelled_of_read hread
  refine ⟨script, hread, fun d hd => ?_⟩
  obtain ⟨written, hwritten, hdeclared⟩ := Except.exists_of_mem_mapM hlowered hd
  have hwellFormed := (hspelled.units_spelled written hwritten).wellFormed hspelled.package_path
    hdeclared
  refine ⟨hwellFormed, fun stamp error herror => ?_⟩
  refine Declaration.refused_of_fault? (fun hkind => ?_) (CodeUnit.define_eq_error_iff.1 herror)
  exact (hwellFormed.interface_bare hkind).2.1

/-! ## A careless text -/

namespace Careless

/-- Two units, with as few spaces as the grammar needs and a comment inside a header. The second one
has a member without the body that its kind asks for. -/
def text : String := "packagep;class//\nA extendsq.B\x7bvirtualrun(int,String ...)=raise\"\";\x7d" ++
  "interfaceI\x7bstaticgo();\x7d"

/-- What is read off it. -/
def script : Script where
  package := some "p"
  units := [
    .classUnit false "A" (some "q.B") []
      [⟨.virtual, "run", [.known .int, .known .stringGroup], some (.raise "")⟩],
    .interfaceUnit "I" [⟨.static, "go", [], none⟩]]

/-- The class that the text declares. -/
def classDeclaration : Declaration where
  name := ⟨"p.A"⟩
  kind := .concreteClass
  parent := some ⟨"q.B"⟩
  capabilities := []
  members := [⟨⟨"run", ⟨[.int, .stringGroup]⟩⟩, .virtual, some (.raise "")⟩]

/-- The interface that it declares. -/
def interfaceDeclaration : Declaration where
  name := ⟨"p.I"⟩
  kind := .interface
  parent := none
  capabilities := []
  members := [⟨⟨"go", ⟨[]⟩⟩, .interfaceStatic, none⟩]

end Careless

/-- Both declarations are well formed in the package of the text, and the second one is refused for
the shape of its member. -/
theorem Script.wellFormed_careless :
    Script.parse Careless.text = .ok [Careless.classDeclaration, Careless.interfaceDeclaration] ∧
      Careless.classDeclaration.WellFormed (some "p") ∧
      Careless.interfaceDeclaration.WellFormed (some "p") ∧
      Careless.interfaceDeclaration.Refused (Careless.interfaceDeclaration.broken
        (.wrongBodyShape .interfaceStatic ⟨"go", ⟨[]⟩⟩)) := by
  have hread : Script.read Careless.text.toList = .ok Careless.script := by decide +kernel
  have hparse : Script.parse Careless.text =
      .ok [Careless.classDeclaration, Careless.interfaceDeclaration] :=
    Except.bind_eq_ok_iff.2 ⟨Careless.script, hread, rfl⟩
  obtain ⟨script, hfound, hall⟩ := wellFormed_of_parse hparse
  obtain rfl : Careless.script = script := Except.ok.inj (hread.symm.trans hfound)
  have hclass := hall Careless.classDeclaration (by decide)
  have hinterface := hall Careless.interfaceDeclaration (by decide)
  exact ⟨hparse, hclass.1, hinterface.1, hinterface.2 0 _ (CodeUnit.define_eq_error_iff.2 rfl)⟩

end Linkage
