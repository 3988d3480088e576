import Linkage.Binding.Resolve
import Linkage.Namespace.Load
import Linkage.Proofs.Except
import Mathlib.Data.List.Forall2

/-!
# Corresponding types

Everything that is done with a type looks at its unit and at what its home loads. A `Correspondence`
is a relation between types that agree in both; since types are told apart by their units, they are
told apart alike (`Correspondence.sameUnit_iff`). Walks that start at corresponding types visit
corresponding types, and what is bound on an instance of them corresponds
(`Correspondence.bindInstance`), so two resolvers whose namespaces load corresponding types come to
corresponding symbols (`Resolver.Corresponds.resolve`), and so do direct calls
(`Namespace.resolve_relUnless`).

A failure to load may count as lost. Nothing is said of the second side where the first one is lost,
and the second side may take more steps than the first one where being cut counts as lost
(`Granted`).
-/

namespace Linkage

/-- A failure to bind that is a failure to load of some kind. -/
inductive BindingError.OfLoad (property : LoadError → Prop) : BindingError → Prop where
  | load {error : LoadError} (h : property error) : OfLoad property (.load error)

/-- Two failures to bind that are the same, or failures to load that are alike. -/
inductive BindingError.Alike (alike : LoadError → LoadError → Prop) :
    BindingError → BindingError → Prop where
  | same (error : BindingError) : Alike alike error error
  | load {error error' : LoadError} (h : alike error error') :
      Alike alike (.load error) (.load error')

/-- Whether a walk on the second side may take some more steps than the one on the first: there are
none, or a walk that is cut is lost. -/
def Granted (lost : LoadError → Prop) (more : Nat) : Prop :=
  more = 0 ∨ ∀ name limit, lost (.spent name limit)

/-- A relation between types that agree in their units and in what their homes load. -/
structure Correspondence (lost : LoadError → Prop) (alike : LoadError → LoadError → Prop)
    (same : LoadedType → LoadedType → Prop) : Prop where
  alike_refl : ∀ error, alike error error
  unit_eq : ∀ {type type' : LoadedType}, same type type' → type'.unit = type.unit
  load : ∀ {type type' : LoadedType}, same type type' → ∀ name,
    Except.RelUnless lost alike same (type.home.load name) (type'.home.load name)

/-- A hit on a type and the same hit on a corresponding one. -/
structure Hit.Alike (same : LoadedType → LoadedType → Prop) (hit hit' : Hit) : Prop where
  owner : same hit.owner hit'.owner
  member : hit'.member = hit.member
  depth : hit'.depth = hit.depth

/-- A member bound on an instance of a type and on one of a corresponding type. -/
structure InstanceBinding.Alike (same : LoadedType → LoadedType → Prop)
    (binding binding' : InstanceBinding) : Prop where
  hit : Hit.Alike same binding.hit binding'.hit
  body : binding'.body = binding.body
  origin : binding'.origin = binding.origin

/-- Two receivers of corresponding types. -/
structure Receiver.Alike (same held : LoadedType → LoadedType → Prop)
    (receiver receiver' : Receiver) : Prop where
  runtime : same receiver.runtime receiver'.runtime
  reference : Option.Rel held receiver.reference receiver'.reference

/-- Two symbols that are the same but for corresponding types. -/
structure Symbol.Alike (same held : LoadedType → LoadedType → Prop) (symbol symbol' : Symbol) :
    Prop where
  owner : same symbol.owner symbol'.owner
  dispatch : symbol'.dispatch = symbol.dispatch
  member : symbol'.member = symbol.member
  body : symbol'.body = symbol.body
  origin : symbol'.origin = symbol.origin
  receiver : Option.Rel (Receiver.Alike same held) symbol.receiver symbol'.receiver

/-- Two stages of binding that end alike unless the first one is lost. -/
abbrev BindsUnless {α α' : Type} (lost : LoadError → Prop) (alike : LoadError → LoadError → Prop)
    (onOk : α → α' → Prop) : Except BindingError α → Except BindingError α' → Prop :=
  Except.RelUnless (BindingError.OfLoad lost) (BindingError.Alike alike) onOk

namespace Correspondence

variable {lost : LoadError → Prop} {alike : LoadError → LoadError → Prop}
  {same held : LoadedType → LoadedType → Prop} {type type' start start' : LoadedType}
  {key : MemberKey} {more : Nat}

/-! ## References -/

section Types

variable (c : Correspondence lost alike same)

include c

theorem name_eq (h : same type type') : type'.name = type.name := congrArg CodeUnit.name (c.unit_eq h)

theorem parent (h : same type type') :
    Except.RelUnless lost alike (Option.Rel same) type.parent type'.parent := by
  rw [LoadedType.parent, LoadedType.parent, c.unit_eq h]
  cases type.unit.parent with
  | none => exact .ok .none
  | some name => exact (c.load h name).map fun _ _ hfound => .some hfound

theorem capabilities (h : same type type') :
    Except.RelUnless lost alike (List.Forall₂ same) type.capabilities type'.capabilities := by
  rw [LoadedType.capabilities, LoadedType.capabilities, c.unit_eq h]
  induction type.unit.capabilities with
  | nil => exact .ok .nil
  | cons name names ih =>
    rw [List.mapM_cons, List.mapM_cons]
    refine (c.load h name).bind fun found found' hfound => ?_
    exact ih.bind fun rest rest' hrest => .ok (.cons hfound hrest)

/-- Types are one unit exactly where those that correspond to them are. -/
theorem sameUnit_iff {other other' : LoadedType} (h : same type type') (hother : same other other') :
    type'.SameUnit other' ↔ type.SameUnit other := by
  rw [LoadedType.SameUnit, LoadedType.SameUnit, c.unit_eq h, c.unit_eq hother]

/-- A unit is in a list exactly where it is in the corresponding list. -/
theorem exists_sameUnit_iff {types types' : List LoadedType} (h : same type type')
    (htypes : List.Forall₂ same types types') :
    (∃ other ∈ types', other.SameUnit type') ↔ ∃ other ∈ types, other.SameUnit type := by
  induction htypes with
  | nil => simp
  | cons hother _ ih =>
    simp only [List.exists_mem_cons_iff, c.sameUnit_iff hother h, ih]

/-! ## Assignability -/

theorem assignableFrom {reference reference' : LoadedType} (granted : Granted lost more)
    (hname : start'.name = start.name) (href : same reference reference') (limit left : Nat)
    (h : same type type') :
    Except.RelUnless lost alike Eq (LoadedType.assignableFrom start limit reference left type)
      (LoadedType.assignableFrom start' (limit + more) reference' (left + more) type') := by
  -- with as many steps left but for the granted ones, the walks stand at corresponding types
  induction left using Nat.strongRecOn generalizing type type' with
  | ind left ih =>
    unfold LoadedType.assignableFrom
    simp only [c.sameUnit_iff h href]
    split
    · exact .ok rfl
    rcases (c.capabilities h).cases with
      ⟨error, hlisted, herror⟩ | ⟨error, error', hlisted, hlisted', herror⟩ |
        ⟨listed, listed', hlisted, hlisted', hall⟩
    · rw [hlisted]
      exact .lost herror
    · rw [hlisted, hlisted']
      exact .error herror
    rw [hlisted, hlisted']
    simp only [c.exists_sameUnit_iff href hall]
    split
    · exact .ok rfl
    cases left with
    | zero =>
      -- the first walk is cut; so is the second, unless it was granted steps and this is a loss
      rcases granted with rfl | hlost
      · rw [hname]
        exact .error (c.alike_refl _)
      · exact .lost (hlost _ _)
    | succ left =>
      rw [Nat.add_right_comm left 1 more]
      rcases (c.parent h).cases with
        ⟨error, hparent, herror⟩ | ⟨error, error', hparent, hparent', herror⟩ |
          ⟨above, above', hparent, hparent', habove⟩
      · rw [hparent]
        exact .lost herror
      · rw [hparent, hparent']
        exact .error herror
      rw [hparent, hparent']
      cases habove with
      | none => exact .ok rfl
      | some habove => exact ih left (Nat.lt_succ_self left) habove

theorem isAssignable {reference reference' : LoadedType} (granted : Granted lost more)
    (h : same type type') (href : same reference reference') (maxHops : Nat) :
    Except.RelUnless lost alike Eq (type.isAssignable reference maxHops)
      (type'.isAssignable reference' (maxHops + more)) :=
  c.assignableFrom granted (c.name_eq h) href maxHops maxHops h

/-! ## Walks -/

theorem findFrom (granted : Granted lost more) (hname : start'.name = start.name)
    (limit left depth : Nat) (h : same type type') :
    BindsUnless lost alike (Option.Rel (Hit.Alike same))
      (LoadedType.findFrom start limit key left depth type)
      (LoadedType.findFrom start' (limit + more) key (left + more) depth type') := by
  -- the units decide alike whether the walks stop here or go on to the parents
  induction left using Nat.strongRecOn generalizing depth type type' with
  | ind left ih =>
    unfold LoadedType.findFrom
    rw [c.unit_eq h]
    cases type.unit.instanceMember? key with
    | some member => exact .ok (.some ⟨h, rfl, rfl⟩)
    | none =>
      rcases (c.parent h).cases with
        ⟨error, hparent, herror⟩ | ⟨error, error', hparent, hparent', herror⟩ |
          ⟨above, above', hparent, hparent', habove⟩
      · rw [hparent]
        exact .lost (.load herror)
      · rw [hparent, hparent']
        exact .error (.load herror)
      rw [hparent, hparent']
      cases habove with
      | none => exact .ok .none
      | some habove =>
        cases left with
        | zero =>
          rcases granted with rfl | hlost
          · dsimp only
            rw [LoadedType.cut, LoadedType.cut, hname]
            exact .error (.same _)
          · exact .lost (.load (hlost _ _))
        | succ left =>
          rw [Nat.add_right_comm left 1 more]
          exact ih left (Nat.lt_succ_self left) (depth + 1) habove

theorem findInChain (granted : Granted lost more) (h : same type type') (key : MemberKey)
    (maxHops : Nat) :
    BindsUnless lost alike (Option.Rel (Hit.Alike same)) (type.findInChain key maxHops)
      (type'.findInChain key (maxHops + more)) :=
  c.findFrom granted (c.name_eq h) maxHops maxHops 0 h

theorem any_owner_eq {found found' : List Hit} (h : same type type')
    (hfound : List.Forall₂ (Hit.Alike same) found found') :
    (found'.any fun hit => hit.owner.SameUnit type') =
      found.any fun hit => hit.owner.SameUnit type := by
  induction hfound with
  | nil => rfl
  | cons hhit _ ih => simp only [List.any_cons, c.sameUnit_iff hhit.owner h, ih]

theorem addDefaults {found found' : List Hit} {types types' : List LoadedType} (key : MemberKey)
    (depth : Nat) (hfound : List.Forall₂ (Hit.Alike same) found found')
    (htypes : List.Forall₂ same types types') :
    List.Forall₂ (Hit.Alike same) (LoadedType.addDefaults key depth found types)
      (LoadedType.addDefaults key depth found' types') := by
  rw [LoadedType.addDefaults, LoadedType.addDefaults]
  induction htypes generalizing found found' with
  | nil => exact hfound
  | @cons type type' _ _ h _ ih =>
    rw [List.foldl_cons, List.foldl_cons]
    refine ih ?_
    rw [c.unit_eq h]
    cases type.unit.memberOfKind? .default key with
    | none => exact hfound
    | some member =>
      dsimp only
      -- a unit is there already exactly where it is on the other side
      rw [c.any_owner_eq h hfound]
      split
      · exact hfound
      · exact List.rel_append hfound (.cons ⟨h, rfl, rfl⟩ .nil)

theorem collectFrom (granted : Granted lost more) (hname : start'.name = start.name)
    (limit left depth : Nat) {found found' : List Hit}
    (hfound : List.Forall₂ (Hit.Alike same) found found') (h : same type type') :
    BindsUnless lost alike (List.Forall₂ (Hit.Alike same))
      (LoadedType.collectFrom start limit key left depth found type)
      (LoadedType.collectFrom start' (limit + more) key (left + more) depth found' type') := by
  -- what was gathered so far corresponds too
  induction left using Nat.strongRecOn generalizing depth found found' type type' with
  | ind left ih =>
    unfold LoadedType.collectFrom
    rcases (c.capabilities h).cases with
      ⟨error, hlisted, herror⟩ | ⟨error, error', hlisted, hlisted', herror⟩ |
        ⟨listed, listed', hlisted, hlisted', hall⟩
    · rw [hlisted]
      exact .lost (.load herror)
    · rw [hlisted, hlisted']
      exact .error (.load herror)
    rw [hlisted, hlisted']
    have hadded := c.addDefaults key depth hfound hall
    rcases (c.parent h).cases with
      ⟨error, hparent, herror⟩ | ⟨error, error', hparent, hparent', herror⟩ |
        ⟨above, above', hparent, hparent', habove⟩
    · rw [hparent]
      exact .lost (.load herror)
    · rw [hparent, hparent']
      exact .error (.load herror)
    rw [hparent, hparent']
    cases habove with
    | none => exact .ok hadded
    | some habove =>
      cases left with
      | zero =>
        rcases granted with rfl | hlost
        · dsimp only
          rw [LoadedType.cut, LoadedType.cut, hname]
          exact .error (.same _)
        · exact .lost (.load (hlost _ _))
      | succ left =>
        rw [Nat.add_right_comm left 1 more]
        exact ih left (Nat.lt_succ_self left) (depth + 1) hadded habove

theorem collectDefaults (granted : Granted lost more) (h : same type type') (key : MemberKey)
    (maxHops : Nat) :
    BindsUnless lost alike (List.Forall₂ (Hit.Alike same)) (type.collectDefaults key maxHops)
      (type'.collectDefaults key (maxHops + more)) :=
  c.collectFrom granted (c.name_eq h) maxHops maxHops 0 .nil h

/-! ## Members bound on an instance -/

theorem bodyOf (h : same type type') (member : Member) :
    BindsUnless lost alike Eq (type.bodyOf member) (type'.bodyOf member) := by
  rw [LoadedType.bodyOf, LoadedType.bodyOf, c.name_eq h]
  cases member.body with
  | some body => exact .ok rfl
  | none => exact .error (.same _)

theorem noSuchMember_eq (h : same type type') (key : MemberKey) :
    type'.noSuchMember key = type.noSuchMember key := by
  rw [LoadedType.noSuchMember, LoadedType.noSuchMember, c.name_eq h]

theorem originOf (granted : Granted lost more) (h : same type type') {hit hit' : Hit}
    (hhit : Hit.Alike same hit hit') (maxHops : Nat) :
    BindsUnless lost alike Eq (type.originOf hit maxHops)
      (type'.originOf hit' (maxHops + more)) := by
  rw [LoadedType.originOf, LoadedType.originOf, hhit.depth, hhit.member, c.name_eq hhit.owner,
    c.name_eq h]
  split
  · exact .ok rfl
  -- what is said where nothing is shadowed, at the top of a chain or below it
  have hnothing : BindsUnless lost alike Eq
      (if hit.member.kind = .override then
        .error (.notOverridden type.name hit.member.key.name) else .ok Origin.declared)
      (if hit.member.kind = .override then
        .error (.notOverridden type.name hit.member.key.name) else .ok Origin.declared) := by
    split
    · exact .error (.same _)
    · exact .ok rfl
  rcases (c.parent h).cases with
    ⟨error, hparent, herror⟩ | ⟨error, error', hparent, hparent', herror⟩ |
      ⟨above, above', hparent, hparent', habove⟩
  · rw [hparent]
    exact .lost (.load herror)
  · rw [hparent, hparent']
    exact .error (.load herror)
  rw [hparent, hparent']
  cases habove with
  | none => exact hnothing
  | some habove =>
    refine (c.findInChain granted habove hit.member.key maxHops).bind fun shadowed shadowed' hrel => ?_
    cases hrel with
    | none => exact hnothing
    | some hrel => exact .ok (congrArg Origin.overridden (c.name_eq hrel.owner).symm)

theorem owner_names_eq {hits hits' : List Hit} (h : List.Forall₂ (Hit.Alike same) hits hits') :
    (hits'.map fun hit => hit.owner.name) = hits.map fun hit => hit.owner.name := by
  induction h with
  | nil => rfl
  | cons hhit _ ih => rw [List.map_cons, List.map_cons, c.name_eq hhit.owner, ih]

theorem chooseDefault (granted : Granted lost more) (h : same type type') (key : MemberKey)
    (maxHops : Nat) :
    BindsUnless lost alike (Option.Rel (InstanceBinding.Alike same))
      (type.chooseDefault key maxHops) (type'.chooseDefault key (maxHops + more)) := by
  refine (c.collectDefaults granted h key maxHops).bind fun hits hits' hall => ?_
  cases hall with
  | nil => exact .ok .none
  | cons hhit hrest =>
    cases hrest with
    | nil =>
      dsimp only
      rw [hhit.member]
      refine (c.bodyOf hhit.owner _).bind ?_
      rintro body _ rfl
      refine .ok (.some ⟨hhit, rfl, ?_⟩)
      exact congrArg Origin.default (c.name_eq hhit.owner)
    | cons hnext hothers =>
      dsimp only
      rw [c.owner_names_eq (.cons hhit (.cons hnext hothers))]
      exact .error (.same _)

omit c in
/-- The hit that answers, if one with a body was found. -/
theorem bodied {found found' : Option Hit} (h : Option.Rel (Hit.Alike same) found found') :
    Option.Rel (fun pair pair' => Hit.Alike same pair.1 pair'.1 ∧ pair'.2 = pair.2)
      (found.bind fun hit => hit.member.body.map fun body => (hit, body))
      (found'.bind fun hit => hit.member.body.map fun body => (hit, body)) := by
  cases h with
  | none => exact .none
  | @some hit hit' h =>
    rw [Option.bind_some, Option.bind_some, h.member]
    cases hit.member.body with
    | none => exact .none
    | some body => exact .some ⟨h, rfl⟩

theorem unanswered_eq (h : same type type') (key : MemberKey) {found found' : Option Hit}
    (hfound : Option.Rel (Hit.Alike same) found found') :
    type'.unanswered key found' = type.unanswered key found := by
  cases hfound with
  | none => exact c.noSuchMember_eq h key
  | some hhit => rw [LoadedType.unanswered, LoadedType.unanswered, c.name_eq hhit.owner]

theorem bindInstance (granted : Granted lost more) (h : same type type') (key : MemberKey)
    (withDefaults : Bool) (maxHops : Nat) :
    BindsUnless lost alike (InstanceBinding.Alike same)
      (type.bindInstance key withDefaults maxHops)
      (type'.bindInstance key withDefaults (maxHops + more)) := by
  refine (c.findInChain granted h key maxHops).bind fun found found' hfound => ?_
  have hbodied := bodied hfound
  -- from here on only the hit that answers counts, and what was found only for the failure
  generalize (found.bind fun hit => hit.member.body.map fun body => (hit, body)) = answer
    at hbodied ⊢
  generalize (found'.bind fun hit => hit.member.body.map fun body => (hit, body)) = answer'
    at hbodied ⊢
  cases hbodied with
  | @some pair pair' hpair =>
    obtain ⟨hit, body⟩ := pair
    obtain ⟨hit', body'⟩ := pair'
    obtain ⟨hhit, rfl⟩ := hpair
    refine (c.originOf granted h hhit maxHops).bind ?_
    rintro origin _ rfl
    exact .ok ⟨hhit, rfl, rfl⟩
  | none =>
    -- where no default is asked for and where none is found, the same failure is named
    have hunanswered : BindsUnless lost alike (InstanceBinding.Alike same)
        (.error (type.unanswered key found)) (.error (type'.unanswered key found')) := by
      rw [c.unanswered_eq h key hfound]
      exact .error (.same _)
    cases withDefaults with
    | false => exact hunanswered
    | true =>
      refine (c.chooseDefault granted h key maxHops).bind fun chosen chosen' hchosen => ?_
      cases hchosen with
      | none => exact hunanswered
      | some hchosen => exact .ok hchosen

theorem hasSlot (granted : Granted lost more) (h : same type type') (key : MemberKey)
    (maxHops : Nat) :
    BindsUnless lost alike Eq (type.hasSlot key maxHops)
      (type'.hasSlot key (maxHops + more)) := by
  refine (c.findInChain granted h key maxHops).bind fun found found' hfound => ?_
  cases hfound with
  | some hhit => exact .ok rfl
  | none =>
    refine (c.collectDefaults granted h key maxHops).bind fun hits hits' hall => ?_
    cases hall with
    | nil => exact .ok rfl
    | cons => exact .ok rfl

theorem typeSymbol (held : LoadedType → LoadedType → Prop) (h : same type type')
    (dispatch : Dispatch) (member : Member) :
    BindsUnless lost alike (Symbol.Alike same held) (type.typeSymbol dispatch member)
      (type'.typeSymbol dispatch member) := by
  refine (c.bodyOf h member).bind ?_
  rintro body _ rfl
  exact .ok ⟨h, rfl, rfl, rfl, rfl, .none⟩

end Types

end Correspondence

theorem InstanceBinding.Alike.symbol {same held : LoadedType → LoadedType → Prop}
    {type type' : LoadedType} {binding binding' : InstanceBinding}
    {reference reference' : Option LoadedType} (h : InstanceBinding.Alike same binding binding')
    (dispatch : Dispatch) (htype : same type type') (href : Option.Rel held reference reference') :
    Symbol.Alike same held (binding.symbol dispatch type reference)
      (binding'.symbol dispatch type' reference') where
  owner := h.hit.owner
  dispatch := rfl
  member := h.hit.member
  body := h.body
  origin := h.origin
  receiver := .some ⟨htype, href⟩

/-! ## Resolvers -/

/-- Two resolvers whose namespaces load corresponding types. The second one may take more steps where
that is granted. The types that instances are held as may correspond in a way of their own. -/
structure Resolver.Corresponds (lost : LoadError → Prop) (alike : LoadError → LoadError → Prop)
    (same held : LoadedType → LoadedType → Prop) (more : Nat) (resolver resolver' : Resolver) :
    Prop where
  same_types : Correspondence lost alike same
  held_types : Correspondence lost alike held
  granted : Granted lost more
  maxHops : resolver'.maxHops = resolver.maxHops + more
  handles : resolver'.interfaceStaticHandles = resolver.interfaceStaticHandles
  space : ∀ name, Except.RelUnless lost alike same (resolver.space.load name)
    (resolver'.space.load name)
  caller : ∀ name, Except.RelUnless lost alike held (resolver.caller.load name)
    (resolver'.caller.load name)

namespace Resolver

variable {lost : LoadError → Prop} {alike : LoadError → LoadError → Prop}
  {same held : LoadedType → LoadedType → Prop} {more : Nat} {resolver resolver' : Resolver}
  {type type' : LoadedType}

/-- A load that is part of binding ends alike where the load does. -/
theorem loadIn_relUnless {onOk : LoadedType → LoadedType → Prop} {space space' : Namespace}
    {name : QualifiedName}
    (h : Except.RelUnless lost alike onOk (space.load name) (space'.load name)) :
    BindsUnless lost alike onOk (loadIn space name) (loadIn space' name) := by
  rw [loadIn, loadIn]
  rcases h.cases with
    ⟨error, hload, herror⟩ | ⟨error, error', hload, hload', herror⟩ |
      ⟨found, found', hload, hload', hfound⟩
  · rw [hload]
    exact .lost (.load herror)
  · rw [hload, hload']
    exact .error (.load herror)
  · rw [hload, hload']
    exact .ok hfound

/-- Binding a member of corresponding types comes to corresponding symbols. -/
theorem Corresponds.bind (c : Corresponds lost alike same held more resolver resolver')
    (h : same type type') (key : MemberKey) (dispatch : Dispatch) :
    BindsUnless lost alike (Symbol.Alike same held) (resolver.bind type key dispatch)
      (resolver'.bind type' key dispatch) := by
  have hinstance := fun withDefaults =>
    c.same_types.bindInstance c.granted h key withDefaults resolver.maxHops
  rw [← c.maxHops] at hinstance
  cases dispatch with
  | virtual =>
    exact (hinstance false).bind fun binding binding' hbinding =>
      .ok (hbinding.symbol .virtual h .none)
  | interfaceDefault =>
    exact (hinstance true).bind fun binding binding' hbinding =>
      .ok (hbinding.symbol .interfaceDefault h .none)
  | inherited =>
    refine (hinstance false).bind fun binding binding' hbinding => ?_
    rw [hbinding.origin, c.same_types.name_eq h]
    split
    · exact .ok (hbinding.symbol .inherited h .none)
    · exact .error (.same _)
  | overridden =>
    refine (hinstance false).bind fun binding binding' hbinding => ?_
    rw [hbinding.origin, c.same_types.name_eq h]
    split
    · exact .ok (hbinding.symbol .overridden h .none)
    · exact .error (.same _)
  | static =>
    rw [Resolver.bind, Resolver.bind, c.same_types.unit_eq h, c.same_types.noSuchMember_eq h]
    cases type.unit.memberOfKind? .static key with
    | some member => exact c.same_types.typeSymbol held h .static member
    | none => exact .error (.same _)
  | interfaceStatic =>
    rw [Resolver.bind, Resolver.bind, c.handles, c.same_types.unit_eq h,
      c.same_types.noSuchMember_eq h, c.same_types.name_eq h]
    split
    · cases type.unit.memberOfKind? .interfaceStatic key with
      | some member =>
        dsimp only
        split
        · exact c.same_types.typeSymbol held h .interfaceStatic member
        · exact .error (.same _)
      | none => exact .error (.same _)
    · exact .error (.same _)
  | factory via =>
    -- the slot is looked for on the type the caller holds, and the member on the target
    refine (loadIn_relUnless (c.caller via)).bind fun reference reference' href => ?_
    have hslot := c.held_types.hasSlot c.granted href key resolver.maxHops
    rw [← c.maxHops] at hslot
    refine hslot.bind ?_
    rintro slot _ rfl
    rw [c.held_types.noSuchMember_eq href]
    split
    · exact (hinstance true).bind fun binding binding' hbinding =>
        .ok (hbinding.symbol (.factory via) h (.some href))
    · exact .error (.same _)

/-- Requests come to corresponding symbols or fail alike, unless the first one is lost. -/
theorem Corresponds.resolve (c : Corresponds lost alike same held more resolver resolver')
    (request : Request) :
    BindsUnless lost alike (Symbol.Alike same held) (resolver.resolve request)
      (resolver'.resolve request) :=
  (loadIn_relUnless (c.space request.type)).bind fun _ _ h =>
    c.bind h request.member request.dispatch

end Resolver

/-- So do direct calls, which fall back on a static member where there is no other. -/
theorem Namespace.resolve_relUnless {lost : LoadError → Prop}
    {alike : LoadError → LoadError → Prop} {same held : LoadedType → LoadedType → Prop} {more : Nat}
    {space space' : Namespace}
    (c : (Resolver.ofNamespace space).Corresponds lost alike same held more
      (Resolver.ofNamespace space')) (type : QualifiedName) (key : MemberKey) :
    BindsUnless lost alike (Symbol.Alike same held) (space.resolve type key)
      (space'.resolve type key) := by
  rw [Namespace.resolve, Namespace.resolve]
  rcases (c.resolve ⟨type, key, .virtual⟩).cases with
    ⟨error, hresolve, hlost⟩ | ⟨error, error', hresolve, hresolve', halike⟩ |
      ⟨symbol, symbol', hresolve, hresolve', hsymbol⟩
  · -- what is lost is a failure to load, and those are not passed over
    cases hlost with
    | load hlost =>
      rw [hresolve]
      exact .lost (.load hlost)
  · rw [hresolve, hresolve']
    cases halike with
    | same =>
      cases error with
      | noSuchMember owner member signature => exact c.resolve ⟨type, key, .static⟩
      | _ => exact .error (.same _)
    | load halike => exact .error (.load halike)
  · rw [hresolve, hresolve']
    exact .ok hsymbol

end Linkage
