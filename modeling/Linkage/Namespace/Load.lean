import Linkage.Namespace.Basic

/-!
# Loading types and assignability

`Namespace.load` finds the type a name denotes in a namespace. A request that reaches a layer after
more hops than the layer allows is given up at once, before any unit is looked at. A parent that
does not know the name is not the end of the request, but a parent that gives up is.

What a type refers to, its parent and its capabilities, is loaded through the namespace that
defines the type and not through the one that was asked for it.

`LoadedType.isAssignable` decides whether an instance of one type can be held as another one. A type
can stand for itself, for the types above it, and for the capabilities listed by any of them. Types
are compared as units, so a namesake that was defined apart never matches. The walk up is bounded: it
fails after one type more than the bound, before the next parent is looked at.
-/

namespace Linkage

namespace Namespace

/-- The layer's own type of a name. -/
def own? (space : Namespace) (name : QualifiedName) : Option LoadedType :=
  (space.layer.units.lookup? name).map fun unit => ⟨unit, space⟩

/-- The layer's own type of a name, or its failure to know it. -/
def own (space : Namespace) (name : QualifiedName) : Except LoadError LoadedType :=
  match space.own? name with
  | some type => .ok type
  | none => .error (.notFound name space.label)

/-- Load a name after a number of hops from the layer that was asked. -/
def loadAfter (name : QualifiedName) : Namespace → Nat → Except LoadError LoadedType
  | root layer, hops =>
    if layer.maxHops < hops then .error (.tooManyHops name layer.maxHops)
    else (root layer).own name
  | child layer parent, hops =>
    if layer.maxHops < hops then .error (.tooManyHops name layer.maxHops)
    else match layer.policy with
      | .isolated => (child layer parent).own name
      | .parentFirst => match loadAfter name parent (hops + 1) with
        | .error (.notFound _ _) => (child layer parent).own name
        | answer => answer
      | .childFirst => match (child layer parent).own? name with
        | some type => .ok type
        | none => loadAfter name parent (hops + 1)

/-- Load the type a name denotes. A failure to find it names the namespace that was asked. -/
def load (space : Namespace) (name : QualifiedName) : Except LoadError LoadedType :=
  match space.loadAfter name 0 with
  | .error (.notFound name _) => .error (.notFound name space.label)
  | answer => answer

end Namespace

namespace LoadedType

/-- The parent of a type, loaded through the type's home. -/
def parent (type : LoadedType) : Except LoadError (Option LoadedType) :=
  match type.unit.parent with
  | none => .ok none
  | some name => (type.home.load name).map some

/-- The capabilities a type lists, loaded through the type's home. -/
def capabilities (type : LoadedType) : Except LoadError (List LoadedType) :=
  type.unit.capabilities.mapM type.home.load

/-- Walk up from `current`, with the given number of further types to look at; `start` and `limit`
are for the message when the walk is cut. -/
def assignableFrom (start : LoadedType) (limit : Nat) (reference : LoadedType) :
    Nat → LoadedType → Except LoadError Bool
  | left, current =>
    if current.SameUnit reference then .ok true
    else match current.capabilities with
      | .error error => .error error
      | .ok capabilities =>
        if ∃ capability ∈ capabilities, capability.SameUnit reference then .ok true
        else match left with
          | 0 => .error (.spent start.name limit)
          | left + 1 => match current.parent with
            | .error error => .error error
            | .ok none => .ok false
            | .ok (some above) => assignableFrom start limit reference left above

/-- Whether an instance of `runtime` can be held as a `reference`. -/
def isAssignable (runtime reference : LoadedType) (maxHops : Nat) : Except LoadError Bool :=
  assignableFrom runtime maxHops reference maxHops runtime

end LoadedType

end Linkage
