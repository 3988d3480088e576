import Linkage.Binding.Request
import Linkage.Namespace.Load

/-!
# Walks up a type's parents

Two walks go from a type up its parents. `findInChain` stops at the first type that declares an
instance member under the key; `collectDefaults` goes all the way and gathers the capabilities that
supply a default body under it, each once. Both look at no more than `maxHops` types above the
start and fail when there is another one.
-/

namespace Linkage

/-- A member found on a walk, the type that declares it, and how far up that type is. -/
structure Hit where
  owner : LoadedType
  member : Member
  depth : Nat
  deriving DecidableEq

namespace LoadedType

/-- What a walk comes to that may not go on. -/
def cut (start : LoadedType) (limit : Nat) : BindingError :=
  .load (.spent start.name limit)

/-- Go on from `current`, which is `depth` steps above `start`, with the given number of steps
left. -/
def findFrom (start : LoadedType) (limit : Nat) (key : MemberKey) :
    (left depth : Nat) → LoadedType → Except BindingError (Option Hit)
  | left, depth, current =>
    match current.unit.instanceMember? key with
    | some member => .ok (some ⟨current, member, depth⟩)
    | none => match current.parent with
      | .error error => .error (.load error)
      | .ok none => .ok none
      | .ok (some above) => match left with
        | 0 => .error (start.cut limit)
        | left + 1 => findFrom start limit key left (depth + 1) above

/-- The first instance member under a key on a type or above it. -/
def findInChain (start : LoadedType) (key : MemberKey) (maxHops : Nat) :
    Except BindingError (Option Hit) :=
  findFrom start maxHops key maxHops 0 start

/-- Add the default bodies that capabilities supply under a key; a unit that is there already is not
added again. -/
def addDefaults (key : MemberKey) (depth : Nat) (found : List Hit) (capabilities : List LoadedType) :
    List Hit :=
  capabilities.foldl
    (fun found capability =>
      match capability.unit.memberOfKind? .default key with
      | some member =>
        if found.any fun hit => hit.owner.SameUnit capability then found
        else found ++ [⟨capability, member, depth⟩]
      | none => found)
    found

/-- Go on from `current`, which is `depth` steps above `start`, with what was found so far. -/
def collectFrom (start : LoadedType) (limit : Nat) (key : MemberKey) :
    (left depth : Nat) → List Hit → LoadedType → Except BindingError (List Hit)
  | left, depth, found, current =>
    match current.capabilities with
    | .error error => .error (.load error)
    | .ok capabilities =>
      let found := addDefaults key depth found capabilities
      match current.parent with
      | .error error => .error (.load error)
      | .ok none => .ok found
      | .ok (some above) => match left with
        | 0 => .error (start.cut limit)
        | left + 1 => collectFrom start limit key left (depth + 1) found above

/-- The default bodies under a key that the capabilities of a type and of the types above it
supply, in order of first appearance. -/
def collectDefaults (start : LoadedType) (key : MemberKey) (maxHops : Nat) :
    Except BindingError (List Hit) :=
  collectFrom start maxHops key maxHops 0 [] start

end LoadedType

end Linkage
