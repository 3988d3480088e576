import Linkage.Binding.Walk

/-!
# Binding members

`Resolver.resolve` turns a request into a symbol. Calls on an instance share one rule,
`bindInstance`: the first instance member on the type or above it answers if it has a body,
whatever the capabilities supply; where defaults are allowed and there is no such body, the only
default body answers. `inherited` and `overridden` are that rule with a condition on the origin,
and `factory` is that rule for an instance held as a type that must have the member too.
-/

namespace Linkage

/-- What requests are resolved against. -/
structure Resolver where
  /-- Loads the type asked for. -/
  space : Namespace
  /-- Loads the type an instance is held as. -/
  caller : Namespace
  /-- Whether static members of interfaces can be held. -/
  interfaceStaticHandles : Bool
  /-- The bound on walks up a type's parents. -/
  maxHops : Nat

namespace Resolver

/-- The resolver of a namespace that is its own caller. -/
def ofNamespace (space : Namespace) : Resolver := ⟨space, space, false, space.layer.maxHops⟩

end Resolver

/-- A member bound on an instance. -/
structure InstanceBinding where
  hit : Hit
  body : Body
  origin : Origin
  deriving DecidableEq

namespace LoadedType

/-- The failure to find a member. -/
def noSuchMember (type : LoadedType) (key : MemberKey) : BindingError :=
  .noSuchMember type.name key.name key.signature.text

/-- The body of a member, which must have one. -/
def bodyOf (owner : LoadedType) (member : Member) : Except BindingError Body :=
  match member.body with
  | some body => .ok body
  | none => .error (.abstractMember owner.name member.key.name)

/-- Where a hit on the walk from `target` lies. An overriding member of `target` itself must have
something to shadow. -/
def originOf (target : LoadedType) (hit : Hit) (maxHops : Nat) : Except BindingError Origin :=
  if 0 < hit.depth then .ok (.inherited hit.owner.name)
  else do
    let shadowed ← match target.parent with
      | .error error => .error (.load error)
      | .ok none => .ok none
      | .ok (some above) => above.findInChain hit.member.key maxHops
    match shadowed with
    | some shadowed => .ok (.overridden shadowed.owner.name)
    | none =>
      if hit.member.kind = .override then .error (.notOverridden target.name hit.member.key.name)
      else .ok .declared

/-- The only default body there is, or nothing; several of them fail. -/
def chooseDefault (target : LoadedType) (key : MemberKey) (maxHops : Nat) :
    Except BindingError (Option InstanceBinding) := do
  match ← target.collectDefaults key maxHops with
  | [] => .ok none
  | [hit] =>
    let body ← hit.owner.bodyOf hit.member
    .ok (some ⟨hit, body, .default hit.owner.name⟩)
  | several => .error (.ambiguousDefault key.name (several.map fun hit => hit.owner.name))

/-- The failure when nothing answers: the member that was found has no body, or none was found. -/
def unanswered (target : LoadedType) (key : MemberKey) : Option Hit → BindingError
  | some hit => .abstractMember hit.owner.name key.name
  | none => target.noSuchMember key

/-- Bind a member on an instance of a type. -/
def bindInstance (target : LoadedType) (key : MemberKey) (withDefaults : Bool) (maxHops : Nat) :
    Except BindingError InstanceBinding := do
  let found ← target.findInChain key maxHops
  match found.bind fun hit => hit.member.body.map fun body => (hit, body) with
  | some (hit, body) =>
    let origin ← target.originOf hit maxHops
    .ok ⟨hit, body, origin⟩
  | none =>
    let chosen ← if withDefaults then target.chooseDefault key maxHops else .ok none
    match chosen with
    | some binding => .ok binding
    | none => .error (target.unanswered key found)

/-- Whether a member under the key can be called through a reference of a type. -/
def hasSlot (reference : LoadedType) (key : MemberKey) (maxHops : Nat) :
    Except BindingError Bool := do
  match ← reference.findInChain key maxHops with
  | some _ => .ok true
  | none => .ok !(← reference.collectDefaults key maxHops).isEmpty

end LoadedType

/-- The symbol of a member bound on an instance of `target`. -/
def InstanceBinding.symbol (binding : InstanceBinding) (dispatch : Dispatch) (target : LoadedType)
    (reference : Option LoadedType) : Symbol where
  owner := binding.hit.owner
  dispatch := dispatch
  member := binding.hit.member
  body := binding.body
  origin := binding.origin
  receiver := some ⟨target, reference⟩

/-- The symbol of a member called on a type itself. -/
def LoadedType.typeSymbol (target : LoadedType) (dispatch : Dispatch) (member : Member) :
    Except BindingError Symbol := do
  let body ← target.bodyOf member
  .ok ⟨target, dispatch, member, body, .declared, none⟩

namespace Resolver

variable (resolver : Resolver)

/-- Load a name, as part of binding. -/
def loadIn (space : Namespace) (name : QualifiedName) : Except BindingError LoadedType :=
  (space.load name).mapError .load

/-- Bind a member of a loaded type. -/
def bind (target : LoadedType) (key : MemberKey) (dispatch : Dispatch) :
    Except BindingError Symbol :=
  match dispatch with
  | .virtual => do
    let binding ← target.bindInstance key false resolver.maxHops
    .ok (binding.symbol dispatch target none)
  | .interfaceDefault => do
    let binding ← target.bindInstance key true resolver.maxHops
    .ok (binding.symbol dispatch target none)
  | .inherited => do
    let binding ← target.bindInstance key false resolver.maxHops
    if binding.origin.isInherited then .ok (binding.symbol dispatch target none)
    else .error (.notInherited target.name key.name)
  | .overridden => do
    let binding ← target.bindInstance key false resolver.maxHops
    if binding.origin.isOverridden then .ok (binding.symbol dispatch target none)
    else .error (.notOverridden target.name key.name)
  | .static => match target.unit.memberOfKind? .static key with
    | some member => target.typeSymbol dispatch member
    | none => .error (target.noSuchMember key)
  | .interfaceStatic =>
    if target.unit.isInterface then match target.unit.memberOfKind? .interfaceStatic key with
      | some member =>
        if resolver.interfaceStaticHandles then target.typeSymbol dispatch member
        else .error (.unsupportedInterfaceStatic target.name key.name)
      | none => .error (target.noSuchMember key)
    else .error (target.noSuchMember key)
  | .factory via => do
    let reference ← loadIn resolver.caller via
    if ← reference.hasSlot key resolver.maxHops then
      let binding ← target.bindInstance key true resolver.maxHops
      .ok (binding.symbol dispatch target (some reference))
    else .error (reference.noSuchMember key)

/-- Bind the member a request asks for. -/
def resolve (request : Request) : Except BindingError Symbol := do
  let target ← loadIn resolver.space request.type
  resolver.bind target request.member request.dispatch

end Resolver

/-- Bind a member by virtual dispatch, or as a static member where no instance member can be
reached. -/
def Namespace.resolve (space : Namespace) (type : QualifiedName) (key : MemberKey) :
    Except BindingError Symbol :=
  let resolver := Resolver.ofNamespace space
  match resolver.resolve ⟨type, key, .virtual⟩ with
  | .error (.noSuchMember _ _ _) => resolver.resolve ⟨type, key, .static⟩
  | answer => answer

end Linkage
