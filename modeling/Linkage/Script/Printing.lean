import Linkage.Script.Document

/-!
# Printing scripts

The tokens of a script, in order, and its text: the tokens with single spaces between them. The two
halves of the string group are tokens of their own. `Script.Printable` says which scripts have a
text at all: names are dotted paths of identifiers, a string group is a member's last parameter, and
no body text holds a double quote.
-/

namespace Linkage

/-- An identifier: a letter, an underscore or a dollar sign, and then any of these or digits. -/
def IsIdent (name : List Char) : Prop :=
  ∃ first rest, name = first :: rest ∧ (first.isAlpha = true ∨ first = '_' ∨ first = '$') ∧
    ∀ c ∈ rest, c.isAlphanum = true ∨ c = '_' ∨ c = '$'

/-- A dotted path: identifiers with a dot between each two, at least one. -/
def IsPath (name : List Char) : Prop :=
  ∃ idents, idents ≠ [] ∧ (∀ ident ∈ idents, IsIdent ident) ∧ name = List.intercalate ['.'] idents

/-- Token rows with a comma between each two. -/
def withCommas : List (List String) → List String
  | [] => []
  | [row] => row
  | row :: rest => row ++ "," :: withCommas rest

namespace ScriptParam

/-- The tokens of a parameter. -/
def tokens : ScriptParam → List String
  | known .stringGroup => [ParamType.string.word, "..."]
  | known type => [type.word]
  | unknown spelling => [spelling]

end ScriptParam

/-- The tokens of a body clause. -/
def Body.tokens (body : Body) : List String := ["=", body.word, "\"" ++ body.text ++ "\""]

namespace ScriptMember

/-- The tokens of a member. -/
def tokens (written : ScriptMember) : List String :=
  [written.word.spelling, written.name, "("] ++ withCommas (written.params.map ScriptParam.tokens) ++
    ")" :: (written.body.elim [] Body.tokens ++ [";"])

/-- Whether a member has a text. -/
structure Printable (written : ScriptMember) : Prop where
  name_ident : IsIdent written.name.toList
  params_known : ∀ param ∈ written.params, ∃ type, param = .known type
  group_last : .known .stringGroup ∉ written.params.dropLast
  body_unquoted : ∀ body ∈ written.body, '"' ∉ body.text.toList

end ScriptMember

/-- The tokens of members between braces. -/
def memberTokens (members : List ScriptMember) : List String :=
  "\x7b" :: (members.flatMap ScriptMember.tokens ++ ["\x7d"])

namespace ScriptUnit

/-- The tokens of a unit. -/
def tokens : ScriptUnit → List String
  | classUnit abstract name parent capabilities members =>
    (if abstract then ["abstract"] else []) ++ ["class", name] ++
      parent.elim [] (fun above => ["extends", above]) ++
      (if capabilities.isEmpty then []
        else "implements" :: withCommas (capabilities.map fun capability => [capability])) ++
      memberTokens members
  | interfaceUnit name members => ["interface", name] ++ memberTokens members

/-- The names a unit is written with. -/
def names : ScriptUnit → List String
  | classUnit _ name parent capabilities _ => name :: (parent.toList ++ capabilities)
  | interfaceUnit name _ => [name]

/-- The members of a unit. -/
def members : ScriptUnit → List ScriptMember
  | classUnit _ _ _ _ members => members
  | interfaceUnit _ members => members

/-- Whether a unit has a text. -/
structure Printable (written : ScriptUnit) : Prop where
  names_paths : ∀ name ∈ written.names, IsPath name.toList
  members_printable : ∀ member ∈ written.members, member.Printable

end ScriptUnit

namespace Script

/-- The tokens of a script. -/
def tokens (script : Script) : List String :=
  script.package.elim [] (fun package => ["package", package, ";"]) ++
    script.units.flatMap ScriptUnit.tokens

/-- The text of a script: its tokens with single spaces between them. -/
def text (script : Script) : String := " ".intercalate script.tokens

/-- Whether a script has a text. -/
structure Printable (script : Script) : Prop where
  package_path : ∀ package ∈ script.package, IsPath package.toList
  units_printable : ∀ unit ∈ script.units, unit.Printable

end Script

end Linkage
