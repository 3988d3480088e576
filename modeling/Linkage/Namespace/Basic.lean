import Linkage.Unit.Registry

/-!
# Namespaces

A namespace is a chain of layers. Each layer holds its own units and decides by its policy in which
order it and the layers above it are asked for a name. A namespace without a parent is a root.

Layers carry a number. Two layers with the same units under different numbers are different
layers. A loaded type is a unit together with the namespace that defines it. What it refers to is
loaded there, but two loaded types count as the same unit by the identity of their units alone
(`LoadedType.SameUnit`): where a registry was cloned, one unit is loaded in several namespaces.
-/

namespace Linkage

/-- The order in which a layer asks for a name. -/
inductive Policy where
  /-- The parent first, then the layer's own units. -/
  | parentFirst
  /-- The layer's own units first, then the parent. -/
  | childFirst
  /-- The layer's own units only, parent or not. -/
  | isolated
  deriving DecidableEq, Repr, Inhabited

/-- The word for a policy. -/
def Policy.word : Policy → String
  | parentFirst => "parent-first"
  | childFirst => "child-first"
  | isolated => "none"

/-- The policy a word stands for. -/
def Policy.ofWord? (word : String) : Option Policy :=
  [parentFirst, childFirst, isolated].find? fun policy => policy.word = word

theorem Policy.ofWord?_word (policy : Policy) : ofWord? policy.word = some policy := by
  cases policy <;> decide

/-- The bound on hops where none is given. -/
def defaultMaxHops : Nat := 32

/-- One layer of a namespace. -/
structure Layer where
  /-- Tells the layer from every other one. -/
  number : Nat
  /-- How messages call the layer. -/
  label : String
  policy : Policy
  units : Registry
  /-- How many layers below this one a request may have passed. -/
  maxHops : Nat
  deriving DecidableEq

/-- A layer and the layers above it. -/
inductive Namespace where
  | root (layer : Layer)
  | child (layer : Layer) (parent : Namespace)
  deriving DecidableEq

namespace Namespace

/-- The layer a namespace is entered through. -/
def layer : Namespace → Layer
  | root layer => layer
  | child layer _ => layer

/-- The namespace above, if there is one. -/
def parent? : Namespace → Option Namespace
  | root _ => none
  | child _ parent => some parent

/-- A namespace with an optional parent. -/
def ofLayer (layer : Layer) : Option Namespace → Namespace
  | none => root layer
  | some parent => child layer parent

/-- The layers from the entrance up. -/
def layers : Namespace → List Layer
  | root layer => [layer]
  | child layer parent => layer :: parent.layers

/-- The label of a namespace. -/
def label (space : Namespace) : String := space.layer.label

theorem parent?_ofLayer (layer : Layer) (parent : Option Namespace) :
    (ofLayer layer parent).parent? = parent := by cases parent <;> rfl

theorem layer_ofLayer (layer : Layer) (parent : Option Namespace) :
    (ofLayer layer parent).layer = layer := by cases parent <;> rfl

end Namespace

/-- A unit and the namespace that defines it. -/
structure LoadedType where
  unit : CodeUnit
  home : Namespace
  deriving DecidableEq

namespace LoadedType

/-- The name of a loaded type. -/
def name (type : LoadedType) : QualifiedName := type.unit.name

/-- Whether two loaded types are one unit. -/
def SameUnit (a b : LoadedType) : Prop := a.unit.id = b.unit.id

instance (a b : LoadedType) : Decidable (a.SameUnit b) :=
  inferInstanceAs (Decidable (a.unit.id = b.unit.id))

variable {a b c : LoadedType}

theorem SameUnit.refl (a : LoadedType) : a.SameUnit a := rfl

theorem SameUnit.symm (h : a.SameUnit b) : b.SameUnit a := Eq.symm h

theorem SameUnit.trans (h : a.SameUnit b) (h' : b.SameUnit c) : a.SameUnit c := Eq.trans h h'

theorem sameUnit_comm : a.SameUnit b ↔ b.SameUnit a := eq_comm

theorem sameUnit_iff : a.SameUnit b ↔ a.unit = b.unit := CodeUnit.id_inj

end LoadedType

/-- A failure to load a type. -/
inductive LoadError where
  /-- No layer that was asked defines the name. -/
  | notFound (name : QualifiedName) (asker : String)
  /-- The request went through more layers, or up more parents, than allowed. -/
  | tooManyHops (name : QualifiedName) (limit : Nat)
  /-- The way up from a type is followed for ever. This is an outcome that nobody is told: the
  program is caught in the walk. -/
  | endless (name : QualifiedName)
  deriving DecidableEq, Repr, Inhabited

namespace LoadError

/-- The greatest number that a count of hops can reach. -/
def largestCount : Nat := 18446744073709551615

/-- What a walk up from a type comes to when it has gone as far as its bound and there is more. It is
given up when its count exceeds the bound, but no count exceeds the largest one. No registry holds so
many units, so a way up that is as long as that goes round in a circle. -/
def spent (name : QualifiedName) (limit : Nat) : LoadError :=
  if limit < largestCount then tooManyHops name limit else endless name

theorem spent_eq_tooManyHops {name : QualifiedName} {limit : Nat} (h : limit < largestCount) :
    spent name limit = tooManyHops name limit := if_pos h

theorem spent_eq_endless {name : QualifiedName} {limit : Nat} (h : largestCount ≤ limit) :
    spent name limit = endless name := if_neg (Nat.not_lt.2 h)

/-- The wording of the failure. -/
def message : LoadError → String
  | notFound name asker => "class `" ++ name.text ++ "` not found by " ++ asker
  | tooManyHops name limit =>
    "loading `" ++ name.text ++ "` exceeded " ++ toString limit ++ " delegation hops"
  | endless name => "loading `" ++ name.text ++ "` does not end"

end LoadError

end Linkage
