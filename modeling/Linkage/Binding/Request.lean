import Linkage.Namespace.Basic

/-!
# Binding requests and their answers

A request names a type, a member and the way in which the member is to be called. The answer is a
symbol: the member that was bound, the type that supplied it, and the receiver the call needs.
`Origin` tells where the member lies as seen from the type that was asked for.
-/

namespace Linkage

/-- The ways in which a member can be called. -/
inductive Dispatch where
  /-- On an instance, by the members of its type and of the types above it. -/
  | virtual
  /-- On the type itself. -/
  | static
  /-- On an instance, where interfaces may supply the body. -/
  | interfaceDefault
  /-- On an interface itself. -/
  | interfaceStatic
  /-- On an instance, through a member that lies above its type. -/
  | inherited
  /-- On an instance, through a member that shadows one above its type. -/
  | overridden
  /-- On an instance held as another type, which the caller loads. -/
  | factory (via : QualifiedName)
  deriving DecidableEq, Repr, Inhabited

namespace Dispatch

/-- Whether the call needs an instance. -/
def needsReceiver : Dispatch → Bool
  | static | interfaceStatic => false
  | _ => true

/-- The words for a way of calling. -/
def text : Dispatch → String
  | virtual => "virtual"
  | static => "static"
  | interfaceDefault => "interface-default"
  | interfaceStatic => "interface-static"
  | inherited => "inherited"
  | overridden => "overridden"
  | factory via => "factory via " ++ via.text

end Dispatch

/-- A member to bind. -/
structure Request where
  type : QualifiedName
  member : MemberKey
  dispatch : Dispatch
  deriving DecidableEq, Repr, Inhabited

/-- Where a bound member lies. -/
inductive Origin where
  /-- On the type asked for, shadowing nothing. -/
  | declared
  /-- On the type asked for, shadowing a member of the type named. -/
  | overridden (shadowed : QualifiedName)
  /-- On a type above the one asked for. -/
  | inherited (owner : QualifiedName)
  /-- On a capability that supplies a default body. -/
  | default (capability : QualifiedName)
  deriving DecidableEq, Repr, Inhabited

namespace Origin

/-- The words for an origin. -/
def text : Origin → String
  | declared => "declared"
  | overridden shadowed => "overridden (shadows " ++ shadowed.text ++ ")"
  | inherited owner => "inherited from " ++ owner.text
  | default capability => "default from " ++ capability.text

/-- Whether the member lies above the type asked for. -/
def isInherited : Origin → Bool
  | inherited _ => true
  | _ => false

/-- Whether the member shadows another. -/
def isOverridden : Origin → Bool
  | overridden _ => true
  | _ => false

end Origin

/-- The instance a call needs. -/
structure Receiver where
  /-- The type to construct. -/
  runtime : LoadedType
  /-- The type the caller holds the instance as, if it is another one. -/
  reference : Option LoadedType
  deriving DecidableEq

/-- A bound member. -/
structure Symbol where
  /-- The type that supplies the body. -/
  owner : LoadedType
  dispatch : Dispatch
  member : Member
  body : Body
  origin : Origin
  receiver : Option Receiver
  deriving DecidableEq

/-- A failure to bind a member. -/
inductive BindingError where
  /-- Several capabilities supply a body and nothing chooses among them. -/
  | ambiguousDefault (member : String) (candidates : List QualifiedName)
  /-- A static member of an interface, where such members cannot be held. -/
  | unsupportedInterfaceStatic (capability : QualifiedName) (member : String)
  /-- No member of the key can be reached. -/
  | noSuchMember (owner : QualifiedName) (member signature : String)
  /-- The member that answers has no body. -/
  | abstractMember (owner : QualifiedName) (member : String)
  /-- The member does not shadow another. -/
  | notOverridden (owner : QualifiedName) (member : String)
  /-- The member does not lie above the type asked for. -/
  | notInherited (owner : QualifiedName) (member : String)
  /-- A type cannot be loaded. -/
  | load (error : LoadError)
  deriving DecidableEq, Repr, Inhabited

/-- The wording of the failure. -/
def BindingError.message : BindingError → String
  | ambiguousDefault member candidates =>
    "ambiguous default for `" ++ member ++ "`: supplied by " ++
      ", ".intercalate (candidates.map QualifiedName.text)
  | unsupportedInterfaceStatic capability member =>
    "static interface member `" ++ capability.text ++ "." ++ member ++
      "` cannot be bound to a handle"
  | noSuchMember owner member signature =>
    "no member `" ++ member ++ signature ++ "` reachable from `" ++ owner.text ++ "`"
  | abstractMember owner member => "`" ++ owner.text ++ "." ++ member ++ "` is abstract"
  | notOverridden owner member =>
    "`" ++ owner.text ++ "." ++ member ++ "` does not override an inherited member"
  | notInherited owner member =>
    "`" ++ owner.text ++ "." ++ member ++ "` is declared locally, not inherited"
  | load error => error.message

end Linkage
