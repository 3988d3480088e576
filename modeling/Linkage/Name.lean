import Linkage.Text.Basic

/-!
# Qualified names

A type is named by a dotted text. The part behind the last dot is its simple name, the part before
it its package. `QualifiedName.qualify` puts an undotted name into a package and leaves a dotted
name alone (`qualify_of_dotted`).
-/

namespace Linkage

/-- The dotted name of a type. -/
structure QualifiedName where
  text : String
  deriving DecidableEq, Repr, Inhabited

namespace QualifiedName

/-- Whether a name has a dot in it. -/
def isDotted (name : String) : Bool := name.toList.contains '.'

/-- A name inside a package: an undotted name is prefixed by a package that has a name itself;
every other name stands as it is. -/
def qualify (package : Option String) (name : String) : QualifiedName :=
  match package with
  | some package =>
    if isDotted name || package.isEmpty then ⟨name⟩ else ⟨package ++ "." ++ name⟩
  | none => ⟨name⟩

/-- The part behind the last dot; all of an undotted name. -/
def simpleName (name : QualifiedName) : String :=
  match Text.splitLast '.' name.text.toList with
  | some (_, last) => String.ofList last
  | none => name.text

/-- The part before the last dot, if there is one. -/
def package? (name : QualifiedName) : Option String :=
  (Text.splitLast '.' name.text.toList).map fun parts => String.ofList parts.1

/-- Names are ordered as their texts are, by code point. -/
instance : Ord QualifiedName where
  compare a b := compare a.text b.text

instance : ToString QualifiedName where
  toString := QualifiedName.text

theorem qualify_none (name : String) : qualify none name = ⟨name⟩ := rfl

/-- A dotted name is already qualified. -/
theorem qualify_of_dotted {name : String} (h : isDotted name = true) (package : Option String) :
    qualify package name = ⟨name⟩ := by
  cases package <;> simp [qualify, h]

end QualifiedName

end Linkage
