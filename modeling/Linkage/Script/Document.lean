import Linkage.Unit.Declaration

/-!
# Scripts

A script is the text form of declarations: an optional package and a list of units. The types here
hold what such a text says, word for word; names are not yet qualified, and `static` has not yet
been told apart by the unit it stands in. `Script.declarations` does both and refuses the two
things the grammar lets pass: a parameter type that is not spelled right, and a string group in
front of another parameter.
-/

namespace Linkage

/-- The word a member declaration begins with. -/
inductive ScriptWord where
  | virtual | override | static | default | abstract
  deriving DecidableEq, Repr, Inhabited

namespace ScriptWord

/-- Every word, in the order in which they are tried. -/
def all : List ScriptWord := [virtual, override, static, default, abstract]

/-- The word itself. -/
def spelling : ScriptWord → String
  | virtual => "virtual"
  | override => "override"
  | static => "static"
  | default => "default"
  | abstract => "abstract"

end ScriptWord

/-- A parameter as spelled: a type, or a text that only looks like one. -/
inductive ScriptParam where
  | known (type : ParamType)
  | unknown (spelling : String)
  deriving DecidableEq, Repr, Inhabited

/-- A member as written. -/
structure ScriptMember where
  word : ScriptWord
  name : String
  params : List ScriptParam
  body : Option Body
  deriving DecidableEq, Repr, Inhabited

/-- A unit as written. Interfaces have neither parent nor capabilities. -/
inductive ScriptUnit where
  | classUnit (abstract : Bool) (name : String) (parent : Option String) (capabilities : List String)
      (members : List ScriptMember)
  | interfaceUnit (name : String) (members : List ScriptMember)
  deriving DecidableEq, Repr, Inhabited

/-- A whole text: the package, if one is named, and the units in order. -/
structure Script where
  package : Option String
  units : List ScriptUnit
  deriving DecidableEq, Repr, Inhabited

/-- Why a text is no script. -/
inductive ScriptError where
  /-- The grammar refuses the text; the furthest rule that failed began here. -/
  | rejected (line column : Nat)
  /-- A parameter is spelled with something between its two halves. -/
  | unknownType (spelling : String)
  /-- A string group stands in front of another parameter. -/
  | groupNotLast (member : String)
  deriving DecidableEq, Repr, Inhabited

/-- The wording of the failure. -/
def ScriptError.message : ScriptError → String
  | rejected line column => "grammar " ++ toString line ++ ":" ++ toString column
  | unknownType spelling => "unknown parameter type `" ++ spelling ++ "`"
  | groupNotLast member =>
    "`" ++ member ++ "`: a variable-length group must be the last parameter"

/-- The parameter type a spelling stands for. -/
def ScriptParam.type : ScriptParam → Except ScriptError ParamType
  | known type => .ok type
  | unknown spelling => .error (.unknownType spelling)

/-- The kind a word gives a member; `static` depends on where it stands. -/
def ScriptWord.kind (inInterface : Bool) : ScriptWord → MemberKind
  | virtual => .virtual
  | override => .override
  | static => if inInterface then .interfaceStatic else .static
  | default => .default
  | abstract => .abstract

/-- The member a written member declares. -/
def ScriptMember.member (inInterface : Bool) (written : ScriptMember) :
    Except ScriptError Member := do
  let types ← written.params.mapM ScriptParam.type
  if ParamType.stringGroup ∈ types.dropLast then throw (.groupNotLast written.name)
  return ⟨⟨written.name, ⟨types⟩⟩, written.word.kind inInterface, written.body⟩

/-- The declaration of a written unit inside a package. -/
def ScriptUnit.declaration (package : Option String) : ScriptUnit → Except ScriptError Declaration
  | classUnit abstract name parent capabilities members => do
    let members ← members.mapM (ScriptMember.member false)
    return {
      name := QualifiedName.qualify package name
      kind := if abstract then .abstractClass else .concreteClass
      parent := parent.map (QualifiedName.qualify package)
      capabilities := capabilities.map (QualifiedName.qualify package)
      members := members }
  | interfaceUnit name members => do
    let members ← members.mapM (ScriptMember.member true)
    return {
      name := QualifiedName.qualify package name
      kind := .interface
      parent := none
      capabilities := []
      members := members }

/-- The declarations of a script, in order, or its first failure. -/
def Script.declarations (script : Script) : Except ScriptError (List Declaration) :=
  script.units.mapM (ScriptUnit.declaration script.package)

end Linkage
