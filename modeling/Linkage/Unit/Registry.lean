import Linkage.Unit.Declaration

/-!
# Units and registries

A unit is a valid declaration with an identity. A registry holds units under distinct names, in the
order in which they were registered; `CodeUnit.define` and `Registry.register` are the only ways
in, so a lookup finds at most one unit (`lookup?_eq_some_iff`).

Units can be copied and registries cloned, and the copies keep their identities: one unit may stand
in several registries.
-/

namespace Linkage

/-- The identity of a unit. It is given out when a declaration is made into a unit and never again,
so there is one declaration to it. The stamp tells this occasion from the others on which the same
declaration is defined. -/
structure UnitId where
  stamp : Nat
  declaration : Declaration
  deriving DecidableEq

/-- A valid declaration with an identity. -/
structure CodeUnit where
  id : UnitId
  valid : id.declaration.Valid
  deriving DecidableEq

namespace CodeUnit

/-- The unit a declaration describes, with a new identity, or the first rule the declaration
breaks. -/
def define (stamp : Nat) (d : Declaration) : Except DefinitionError CodeUnit :=
  match h : d.fault? with
  | some error => .error error
  | none => .ok ⟨⟨stamp, d⟩, Declaration.fault?_eq_none_iff.1 h⟩

/-- Units with one identity are one unit. -/
theorem id_inj {a b : CodeUnit} : a.id = b.id ↔ a = b := by
  cases a
  cases b
  simp

variable (unit : CodeUnit)

/-- What a unit was made from. -/
def declaration : Declaration := unit.id.declaration

/-- The name of a unit. -/
def name : QualifiedName := unit.declaration.name

/-- The kind of a unit. -/
def kind : UnitKind := unit.declaration.kind

/-- The name of the parent of a unit. -/
def parent : Option QualifiedName := unit.declaration.parent

/-- The names of the interfaces a unit implements, as listed. -/
def capabilities : List QualifiedName := unit.declaration.capabilities

/-- The members a unit declares itself. -/
def members : List Member := unit.declaration.members

/-- Whether a unit is an interface. -/
def isInterface : Bool := unit.kind = .interface

/-- Whether a receiver of this very type can be made. -/
def isConstructible : Bool := unit.kind = .concreteClass

/-- The member declared under a key. -/
def member? (key : MemberKey) : Option Member := unit.members.find? fun member => member.key = key

/-- The instance member declared under a key. -/
def instanceMember? (key : MemberKey) : Option Member :=
  (unit.member? key).filter fun member => member.kind.isInstance

/-- The member of a given kind declared under a key. -/
def memberOfKind? (kind : MemberKind) (key : MemberKey) : Option Member :=
  (unit.member? key).filter fun member => member.kind = kind

variable {unit} {key : MemberKey} {member : Member}

/-- The member found under a key is one of the unit's members and has that key. -/
theorem mem_and_key_of_member? (h : unit.member? key = some member) :
    member ∈ unit.members ∧ member.key = key :=
  ⟨List.mem_of_find?_eq_some h, by simpa using List.find?_some h⟩

theorem instanceMember?_eq_some_iff :
    unit.instanceMember? key = some member ↔
      unit.member? key = some member ∧ member.kind.isInstance = true := by
  simp [instanceMember?]

theorem memberOfKind?_eq_some_iff {kind : MemberKind} :
    unit.memberOfKind? kind key = some member ↔
      unit.member? key = some member ∧ member.kind = kind := by
  simp [memberOfKind?]

/-- A member has a body exactly when it is not abstract. -/
theorem body_eq_none_iff (h : member ∈ unit.members) :
    member.body = none ↔ member.kind = .abstract := by
  have hshape := unit.valid.bodies_shaped member h
  simp only [Member.wellShaped, decide_eq_true_eq] at hshape
  rw [hshape, Option.isNone_iff_eq_none]

theorem body_eq_none_iff_of_member? (h : unit.member? key = some member) :
    member.body = none ↔ member.kind = .abstract :=
  body_eq_none_iff (mem_and_key_of_member? h).1

/-- A declared member of a kind other than the abstract one can be called. -/
theorem exists_body_of_memberOfKind? {kind : MemberKind}
    (h : unit.memberOfKind? kind key = some member) (concrete : kind ≠ .abstract) :
    ∃ body, member.body = some body := by
  obtain ⟨hmember, rfl⟩ := memberOfKind?_eq_some_iff.1 h
  exact Option.ne_none_iff_exists'.1 (mt (body_eq_none_iff_of_member? hmember).1 concrete)

theorem define_eq_ok_iff {stamp : Nat} {d : Declaration} {unit : CodeUnit} :
    define stamp d = .ok unit ↔ unit.id = ⟨stamp, d⟩ := by
  unfold define
  split
  · next error h =>
    simp only [reduceCtorEq, false_iff]
    intro hid
    have hvalid := unit.valid
    rw [hid] at hvalid
    rw [Declaration.fault?_eq_none_iff.2 hvalid] at h
    cases h
  · next h => simp only [Except.ok.injEq, ← id_inj, eq_comm]

/-- A unit that was defined is made from its declaration. -/
theorem declaration_of_define {stamp : Nat} {d : Declaration} {unit : CodeUnit}
    (h : define stamp d = .ok unit) : unit.declaration = d := by
  rw [declaration, define_eq_ok_iff.1 h]

theorem define_eq_error_iff {stamp : Nat} {d : Declaration} {error : DefinitionError} :
    define stamp d = .error error ↔ d.fault? = some error := by
  unfold define
  split <;> simp_all

end CodeUnit

/-- Units under distinct names, in the order of their registration. -/
structure Registry where
  units : List CodeUnit
  names_distinct : (units.map CodeUnit.name).Nodup
  deriving DecidableEq

namespace Registry

/-- The registry without units. -/
def empty : Registry := ⟨[], List.nodup_nil⟩

variable (registry : Registry)

/-- The registered names, in order. -/
def names : List QualifiedName := registry.units.map CodeUnit.name

/-- The unit registered under a name. -/
def lookup? (name : QualifiedName) : Option CodeUnit :=
  registry.units.find? fun unit => unit.name = name

/-- Whether a name is taken. -/
def contains (name : QualifiedName) : Bool := (registry.lookup? name).isSome

/-- The number of units. -/
def size : Nat := registry.units.length

theorem lookup?_eq_none_iff {name : QualifiedName} :
    registry.lookup? name = none ↔ name ∉ registry.names := by
  simp [lookup?, names]

/-- Under distinct names, units of one name are one unit. -/
theorem eq_of_name_eq {units : List CodeUnit} (distinct : (units.map CodeUnit.name).Nodup)
    {a b : CodeUnit} (ha : a ∈ units) (hb : b ∈ units) (h : a.name = b.name) : a = b := by
  induction units with
  | nil => cases ha
  | cons unit rest ih =>
    rw [List.map_cons, List.nodup_cons] at distinct
    have apart : ∀ other ∈ rest, other.name ≠ unit.name := fun other hother hname =>
      distinct.1 (hname ▸ List.mem_map_of_mem hother)
    rcases List.mem_cons.1 ha with rfl | ha' <;> rcases List.mem_cons.1 hb with rfl | hb'
    · rfl
    · exact absurd h.symm (apart b hb')
    · exact absurd h (apart a ha')
    · exact ih distinct.2 ha' hb'

/-- A lookup finds exactly the registered unit of that name. -/
theorem lookup?_eq_some_iff {name : QualifiedName} {unit : CodeUnit} :
    registry.lookup? name = some unit ↔ unit ∈ registry.units ∧ unit.name = name := by
  constructor
  · intro h
    exact ⟨List.mem_of_find?_eq_some h, by simpa using List.find?_some h⟩
  · rintro ⟨hmem, rfl⟩
    cases hfind : registry.lookup? unit.name with
    | none => exact absurd (List.mem_map_of_mem hmem) (registry.lookup?_eq_none_iff.1 hfind)
    | some other =>
      have hname : other.name = unit.name := by simpa using List.find?_some hfind
      rw [eq_of_name_eq registry.names_distinct (List.mem_of_find?_eq_some hfind) hmem hname]

theorem contains_eq_false_iff {name : QualifiedName} :
    registry.contains name = false ↔ name ∉ registry.names := by
  rw [contains, Option.isSome_eq_false_iff, Option.isNone_iff_eq_none, lookup?_eq_none_iff]

/-- Add a unit at the end; refused when its name is taken. -/
def register (unit : CodeUnit) : Except DefinitionError Registry :=
  match h : registry.contains unit.name with
  | true => .error (.duplicateDefinition unit.name)
  | false => .ok ⟨registry.units ++ [unit], by
      have hnew := (registry.contains_eq_false_iff).1 h
      rw [List.map_append, List.nodup_append]
      refine ⟨registry.names_distinct, by simp, fun name hname other hother => ?_⟩
      rintro rfl
      exact hnew (by simpa [names, List.mem_singleton.1 hother] using hname)⟩

/-- Define a declaration and register the unit. -/
def declare (stamp : Nat) (d : Declaration) : Except DefinitionError Registry :=
  match CodeUnit.define stamp d with
  | .ok unit => registry.register unit
  | .error error => .error error

/-- Declare a unit and keep what is left: the failure, if there is one, and the registry afterwards,
which is the same as before when the step failed. -/
def enter (stamp : Nat) (d : Declaration) : Option DefinitionError × Registry :=
  match registry.declare stamp d with
  | .ok next => (none, next)
  | .error error => (some error, registry)

/-- Enter declarations one by one, going on after failures. There is one entry for each of them in
what the steps came to. One stamp serves them all: what gets in is told apart by its name. -/
def enterAll (stamp : Nat) (registry : Registry) :
    List Declaration → List (Option DefinitionError) × Registry
  | [] => ([], registry)
  | d :: rest =>
    let (failure, next) := registry.enter stamp d
    let (failures, last) := enterAll stamp next rest
    (failure :: failures, last)

/-- The registry of a list of declarations, or the first failure. -/
def ofDeclarations (stamp : Nat) (declarations : List Declaration) :
    Except DefinitionError Registry :=
  declarations.foldlM (fun registry d => registry.declare stamp d) empty

theorem units_register {unit : CodeUnit} {next : Registry} (h : registry.register unit = .ok next) :
    next.units = registry.units ++ [unit] := by
  unfold register at h
  split at h
  · cases h
  · cases h; rfl

/-- Declaring adds nothing but the unit declared. -/
theorem mem_of_declare {stamp : Nat} {d : Declaration} {next : Registry}
    (h : registry.declare stamp d = .ok next) :
    ∀ unit ∈ next.units, unit ∈ registry.units ∨ unit.id = ⟨stamp, d⟩ := by
  intro unit hunit
  rw [declare] at h
  split at h
  · next added hadded =>
    rw [registry.units_register h] at hunit
    rcases List.mem_append.1 hunit with hbefore | hnew
    · exact Or.inl hbefore
    · exact Or.inr (List.mem_singleton.1 hnew ▸ CodeUnit.define_eq_ok_iff.1 hadded)
  · cases h

/-- The units of a registry are those declared, each with an identity of its own. -/
theorem id_of_mem_ofDeclarations {stamp : Nat} {declarations : List Declaration} {next : Registry}
    (h : ofDeclarations stamp declarations = .ok next) :
    ∀ unit ∈ next.units, ∃ d ∈ declarations, unit.id = ⟨stamp, d⟩ := by
  have hall : ∀ (rest : List Declaration) (registry : Registry),
      rest.foldlM (fun registry d => registry.declare stamp d) registry = .ok next →
      ∀ unit ∈ next.units, unit ∈ registry.units ∨ ∃ d ∈ rest, unit.id = ⟨stamp, d⟩ := by
    intro rest
    induction rest with
    | nil =>
      intro registry h unit hunit
      cases h
      exact Or.inl hunit
    | cons d rest ih =>
      intro registry h unit hunit
      rw [List.foldlM_cons] at h
      cases hdeclare : registry.declare stamp d with
      | error error =>
        rw [hdeclare] at h
        cases h
      | ok first =>
        rw [hdeclare] at h
        rcases ih first h unit hunit with hfirst | ⟨other, hother, hid⟩
        · rcases registry.mem_of_declare hdeclare unit hfirst with hbefore | hid
          · exact Or.inl hbefore
          · exact Or.inr ⟨d, List.mem_cons_self, hid⟩
        · exact Or.inr ⟨other, List.mem_cons_of_mem _ hother, hid⟩
  intro unit hunit
  rcases hall declarations empty h unit hunit with hnone | hdeclared
  · cases hnone
  · exact hdeclared

end Registry

end Linkage
