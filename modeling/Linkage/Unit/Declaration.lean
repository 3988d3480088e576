import Linkage.Name
import Linkage.Signature

/-!
# Declarations

A declaration describes a class or an interface: its name, the names of its parent and of its
capabilities, and its members. It is plain data and may be wrong; `Declaration.Valid` states the
rules, `Declaration.fault?` finds the first broken one, and `fault?_eq_none_iff` says that the two
agree.

The rules, in the order in which they are looked at: an interface has no parent; no unit is its
own parent; then, member by member, the kind must be allowed on the unit, a body must be present
exactly when the member is not abstract, and the key must be new.
-/

namespace Linkage

/-- What a unit is. An interface cannot be constructed, nor can an abstract class. -/
inductive UnitKind where
  | concreteClass | abstractClass | interface
  deriving DecidableEq, Repr, Inhabited

namespace UnitKind

/-- The word for the kind; it does not tell an abstract class from a concrete one. -/
def word : UnitKind → String
  | concreteClass => "class"
  | abstractClass => "class"
  | interface => "interface"

/-- Whether members may be left without a body. -/
def isAbstract : UnitKind → Bool
  | concreteClass => false
  | abstractClass => true
  | interface => true

end UnitKind

/-- How a member is declared on its unit. -/
inductive MemberKind where
  /-- Chosen by the type of the receiver. -/
  | virtual
  /-- Chosen by the type of the receiver, and bound to shadow a member above it. -/
  | override
  /-- Belongs to a class, without a receiver. -/
  | static
  /-- A body an interface supplies to the classes that implement it. -/
  | default
  /-- Belongs to an interface, without a receiver. -/
  | interfaceStatic
  /-- Declared without a body. -/
  | abstract
  deriving DecidableEq, Repr, Inhabited

namespace MemberKind

/-- The word for the kind. -/
def word : MemberKind → String
  | virtual => "virtual"
  | override => "override"
  | static => "static"
  | default => "default"
  | interfaceStatic => "interface-static"
  | abstract => "abstract"

/-- The kind a word stands for. -/
def ofWord? (word : String) : Option MemberKind :=
  [virtual, override, static, default, interfaceStatic, abstract].find? fun kind => kind.word = word

theorem ofWord?_word (kind : MemberKind) : ofWord? kind.word = some kind := by
  cases kind <;> decide

/-- Whether the member is called through a receiver. -/
def isInstance : MemberKind → Bool
  | virtual | override | default | abstract => true
  | static | interfaceStatic => false

end MemberKind

/-- Whether a unit of the kind may declare members of a kind. -/
def UnitKind.allows : UnitKind → MemberKind → Bool
  | .interface, .abstract | .interface, .default | .interface, .interfaceStatic => true
  | .interface, _ => false
  | _, .virtual | _, .override | _, .static => true
  | .abstractClass, .abstract => true
  | _, _ => false

/-- What a member does when it is called. -/
inductive Body where
  /-- Answer with the arguments under a tag. -/
  | transfer (tag : String)
  /-- Fail with a message. -/
  | raise (message : String)
  /-- Answer with the arguments under a tag, the first integer among them changed. -/
  | tamper (tag : String)
  deriving DecidableEq, Repr, Inhabited

namespace Body

/-- The word for what a body does. -/
def word : Body → String
  | transfer _ => "transfer"
  | raise _ => "raise"
  | tamper _ => "tamper"

/-- The tag or message of a body. -/
def text : Body → String
  | transfer tag => tag
  | raise message => message
  | tamper tag => tag

end Body

/-- Members are told apart by name and signature. -/
structure MemberKey where
  name : String
  signature : Signature
  deriving DecidableEq, Repr, Inhabited

/-- The name, directly followed by the signature text. -/
def MemberKey.text (key : MemberKey) : String := key.name ++ key.signature.text

/-- A member of a unit. -/
structure Member where
  key : MemberKey
  kind : MemberKind
  body : Option Body
  deriving DecidableEq, Repr, Inhabited

/-- A class or interface as declared. -/
structure Declaration where
  name : QualifiedName
  kind : UnitKind
  parent : Option QualifiedName
  capabilities : List QualifiedName
  members : List Member
  deriving DecidableEq, Repr, Inhabited

/-- A failure to define a unit. -/
inductive DefinitionError where
  /-- The name is taken. -/
  | duplicateDefinition (name : QualifiedName)
  /-- A key is declared twice. -/
  | duplicateMember (owner : QualifiedName) (member signature : String)
  /-- Some other rule is broken. -/
  | invalidDeclaration (owner : QualifiedName) (reason : String)
  deriving DecidableEq, Repr, Inhabited

namespace DefinitionError

/-- The wording of the failure. -/
def message : DefinitionError → String
  | duplicateDefinition name => "duplicate definition of `" ++ name.text ++ "`"
  | duplicateMember owner member signature =>
    "`" ++ owner.text ++ "` declares `" ++ member ++ signature ++ "` twice"
  | invalidDeclaration owner reason =>
    "invalid declaration in `" ++ owner.text ++ "`: " ++ reason

end DefinitionError

/-- The rules a declaration can break, apart from repeating a key. -/
inductive BrokenRule where
  | interfaceWithParent
  | ownParent
  | kindNotAllowed (kind : MemberKind) (key : MemberKey)
  | wrongBodyShape (kind : MemberKind) (key : MemberKey)
  deriving DecidableEq, Repr

/-- The wording of a broken rule. -/
def BrokenRule.text : BrokenRule → String
  | interfaceWithParent => "an interface cannot extend a class"
  | ownParent => "a unit cannot extend itself"
  | kindNotAllowed kind key => kind.word ++ " member `" ++ key.text ++ "` not allowed here"
  | wrongBodyShape kind key => kind.word ++ " member `" ++ key.text ++ "` has the wrong body shape"

/-- Whether a body is present exactly when the member is not abstract. -/
def Member.wellShaped (member : Member) : Bool := (member.kind = .abstract) = member.body.isNone

namespace Declaration

/-- The rules for declarations. -/
structure Valid (d : Declaration) : Prop where
  interface_has_no_parent : d.kind = .interface → d.parent = none
  not_own_parent : d.parent ≠ some d.name
  kinds_allowed : ∀ member ∈ d.members, d.kind.allows member.kind = true
  bodies_shaped : ∀ member ∈ d.members, member.wellShaped = true
  keys_distinct : (d.members.map Member.key).Nodup

/-- The failure that reports a broken rule. -/
def broken (d : Declaration) (rule : BrokenRule) : DefinitionError :=
  .invalidDeclaration d.name rule.text

/-- The first rule broken by the header. -/
def headerFault? (d : Declaration) : Option DefinitionError :=
  if d.kind = .interface ∧ d.parent ≠ none then some (d.broken .interfaceWithParent)
  else if d.parent = some d.name then some (d.broken .ownParent)
  else none

/-- The first rule broken by a member, given the keys of the members before it. -/
def memberFault? (d : Declaration) (earlier : List MemberKey) (member : Member) :
    Option DefinitionError :=
  if d.kind.allows member.kind = false then
    some (d.broken (.kindNotAllowed member.kind member.key))
  else if member.wellShaped = false then
    some (d.broken (.wrongBodyShape member.kind member.key))
  else if member.key ∈ earlier then
    some (.duplicateMember d.name member.key.name member.key.signature.text)
  else none

/-- The first rule broken by a list of members, given the keys of the members before them. -/
def membersFault? (d : Declaration) : List MemberKey → List Member → Option DefinitionError
  | _, [] => none
  | earlier, member :: rest =>
    (d.memberFault? earlier member).or (d.membersFault? (member.key :: earlier) rest)

/-- The first rule broken by a declaration. -/
def fault? (d : Declaration) : Option DefinitionError :=
  d.headerFault?.or (d.membersFault? [] d.members)

theorem memberFault?_eq_none_iff {d : Declaration} {earlier : List MemberKey} {member : Member} :
    d.memberFault? earlier member = none ↔
      d.kind.allows member.kind = true ∧ member.wellShaped = true ∧ member.key ∉ earlier := by
  unfold memberFault?
  split
  · simp [*]
  · split
    · simp [*]
    · split <;> simp_all

theorem membersFault?_eq_none_iff {d : Declaration} {earlier : List MemberKey}
    {members : List Member} :
    d.membersFault? earlier members = none ↔
      (∀ member ∈ members, d.kind.allows member.kind = true) ∧
      (∀ member ∈ members, member.wellShaped = true) ∧
      (members.map Member.key).Nodup ∧ ∀ member ∈ members, member.key ∉ earlier := by
  induction members generalizing earlier with
  | nil => simp [membersFault?]
  | cons member rest ih =>
    rw [membersFault?, Option.or_eq_none_iff, memberFault?_eq_none_iff, ih]
    rw [List.forall_mem_cons, List.forall_mem_cons, List.forall_mem_cons, List.map_cons,
      List.nodup_cons]
    simp only [List.mem_map, List.mem_cons, not_or, not_exists, not_and]
    constructor
    · rintro ⟨⟨hk, hb, he⟩, hks, hbs, hn, hes⟩
      exact ⟨⟨hk, hks⟩, ⟨hb, hbs⟩, ⟨fun m hm => (hes m hm).1, hn⟩, he, fun m hm => (hes m hm).2⟩
    · rintro ⟨⟨hk, hks⟩, ⟨hb, hbs⟩, ⟨hnew, hn⟩, he, hes⟩
      exact ⟨⟨hk, hb, he⟩, hks, hbs, hn, fun m hm => ⟨hnew m hm, hes m hm⟩⟩

theorem headerFault?_eq_none_iff {d : Declaration} :
    d.headerFault? = none ↔
      (d.kind = .interface → d.parent = none) ∧ d.parent ≠ some d.name := by
  unfold headerFault?
  split
  · simp_all
  · split <;> simp_all

/-- A declaration without a fault is a valid one. -/
theorem fault?_eq_none_iff {d : Declaration} : d.fault? = none ↔ d.Valid := by
  rw [fault?, Option.or_eq_none_iff, headerFault?_eq_none_iff, membersFault?_eq_none_iff]
  constructor
  · rintro ⟨⟨hi, hp⟩, hk, hb, hn, _⟩
    exact ⟨hi, hp, hk, hb, hn⟩
  · rintro ⟨hi, hp, hk, hb, hn⟩
    exact ⟨⟨hi, hp⟩, hk, hb, hn, by simp⟩

end Declaration

end Linkage
