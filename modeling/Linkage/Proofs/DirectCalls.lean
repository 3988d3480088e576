import Linkage.Proofs.CycleGuard
import Linkage.Proofs.DispatchFilters
import Linkage.Proofs.WellFormedSymbols

/-!
# Direct calls

A direct call names a type and a member and leaves the way of calling open. It is a plain call on an
instance, and a call on the type itself only where the plain one has found no member. A plain call
fails for three reasons (`LoadedType.Refusal`), and only one of them says that no type on the way up
declares an instance member, so a static member never stands in for an instance member that is there
and cannot be called. The second try says nothing of its own: it is bound to a static member of the
type asked for, or it repeats the failure of the first.

`Namespace.directCall` says so for every type whose parents load on a way up that is over within the
bound. It reads off `Namespace.resolve_eq_ok_iff` and `Namespace.resolve_eq_error_iff`, which rest on
the three reasons (`LoadedType.ParentsLoad.bindInstance_eq_error_iff`). `Heirloom` has a static and an
instance member under one key on two levels.
-/

namespace Linkage

namespace LoadedType

/-- Whether every parent on the way up from a type loads. -/
def ParentsLoad (start : LoadedType) : Prop :=
  ∀ links type, start.ancestor? links = some type → ∃ parent, type.parent = .ok parent

/-- Why a plain call on an instance is refused. -/
inductive Refusal (target : LoadedType) (key : MemberKey) : BindingError → Prop where
  /-- The first instance member on the way up has no body. -/
  | abstract {declarer : LoadedType} {member : Member} (first : FirstDeclarer key target declarer)
      (declared : declarer.unit.instanceMember? key = some member)
      (bodiless : member.kind = .abstract) :
      Refusal target key (.abstractMember declarer.name key.name)
  /-- The member of the type itself is an overriding one, and nothing above declares another. -/
  | stray {member : Member} (declared : target.unit.instanceMember? key = some member)
      (overrides : member.kind = .override) (alone : ¬ target.Shadows key) :
      Refusal target key (.notOverridden target.name key.name)
  /-- There is no instance member. -/
  | missing (silent : target.Silent key) : Refusal target key (target.noSuchMember key)

/-- Whether a static member of a type itself answers a direct call: nothing on the way up declares an
instance member under its key. -/
def StaticAnswers (target : LoadedType) (key : MemberKey) : Prop :=
  target.Silent key ∧ ∃ member, target.unit.member? key = some member ∧ member.kind = .static

/-- Whether a symbol is the static member of a type itself, bound there. -/
def OwnStatic (target : LoadedType) (key : MemberKey) (symbol : Symbol) : Prop :=
  ∃ member body, target.unit.memberOfKind? .static key = some member ∧ member.body = some body ∧
    symbol = ⟨target, .static, member, body, .declared, none⟩

variable {start current type above top other target : LoadedType} {key : MemberKey} {hit : Hit}
  {error : BindingError} {limit left depth maxHops : Nat}

/-! ## The way up -/

theorem ParentsLoad.of_parent (parents : type.ParentsLoad)
    (hparent : type.parent = .ok (some above)) : above.ParentsLoad := fun links _ h =>
  parents (links + 1) _ ((ancestor?_succ_of_parent hparent links).trans h)

/-- A way up that is over within a bound is over within it from the parent. -/
theorem EndsWithin.of_parent (ends : type.EndsWithin maxHops)
    (hparent : type.parent = .ok (some above)) : above.EndsWithin maxHops := by
  rw [EndsWithin, ancestor?_succ_of_parent hparent] at ends
  cases hmore : above.ancestor? (maxHops + 1) with
  | none => exact hmore
  | some further =>
    have hfurther : (above.ancestor? (maxHops + 1)).isSome = true := by rw [hmore]; rfl
    have hnear := isSome_ancestor?_of_le hfurther (Nat.le_succ maxHops)
    rw [ends] at hnear
    cases hnear

theorem not_above_of_no_parent (hparent : type.parent = .ok none) : ¬ type.Above top := by
  intro h
  cases h with
  | parent parent_loads => cases parent_loads.symm.trans hparent
  | further parent_loads _ => cases parent_loads.symm.trans hparent

/-- What lies above a type is its parent or lies above that. -/
theorem Above.eq_or_above (h : type.Above top) (hparent : type.parent = .ok (some above)) :
    top = above ∨ above.Above top := by
  cases h with
  | parent parent_loads =>
    cases parent_loads.symm.trans hparent
    exact Or.inl rfl
  | further parent_loads more =>
    cases parent_loads.symm.trans hparent
    exact Or.inr more

/-- Nothing is shadowed exactly where the way up from the parent is silent. -/
theorem not_shadows_iff_of_parent (hparent : type.parent = .ok (some above)) :
    ¬ type.Shadows key ↔ above.Silent key := by
  constructor
  · intro alone reached hreached
    have habove : type.Above reached := by
      rcases hreached with rfl | hmore
      · exact .parent hparent
      · exact .further hparent hmore
    exact Option.not_isSome_iff_eq_none.1 fun declares => alone ⟨reached, habove, declares⟩
  · rintro silent ⟨reached, habove, declares⟩
    rw [silent reached (habove.eq_or_above hparent)] at declares
    cases declares

/-- The nearest declaring type above a type is one type. -/
theorem NearestAbove.unique (nearest : NearestAbove key type top)
    (nearest' : NearestAbove key type other) : top = other := by
  induction nearest with
  | parent parent_loads declares =>
    rcases nearest'.eq_or_of_parent parent_loads with rfl | ⟨hsilent, -⟩
    · rfl
    · rw [hsilent] at declares
      cases declares
  | further parent_loads silent _ ih =>
    rcases nearest'.eq_or_of_parent parent_loads with rfl | ⟨-, hmore⟩
    · have declares := nearest'.declares
      rw [silent] at declares
      cases declares
    · exact ih hmore

theorem FirstDeclarer.unique (first : FirstDeclarer key type top)
    (first' : FirstDeclarer key type other) : top = other := by
  cases first with
  | here declares =>
    cases first' with
    | here => rfl
    | above silent _ =>
      rw [silent] at declares
      cases declares
  | above silent nearest =>
    cases first' with
    | here declares =>
      rw [silent] at declares
      cases declares
    | above _ nearest' => exact nearest.unique nearest'

/-- The first declaring type is not silent, nor is the way up to it. -/
theorem FirstDeclarer.not_silent (first : FirstDeclarer key type top) : ¬ type.Silent key := by
  intro silent
  cases first with
  | here declares =>
    rw [silent type (Or.inl rfl)] at declares
    cases declares
  | above _ nearest =>
    have declares := nearest.declares
    rw [silent top (Or.inr nearest.above)] at declares
    cases declares

/-! ## The walk within the bound -/

/-- A walk that finds nothing has come past every type on the way up. -/
theorem silent_of_findFrom (h : findFrom start limit key left depth current = .ok none) :
    current.Silent key := by
  induction left using Nat.strongRecOn generalizing depth current with
  | ind left ih =>
    obtain ⟨hmember, hend⟩ := findFrom_eq_none h
    rintro type (rfl | habove)
    · exact hmember
    · rcases hend with hparent | ⟨above, fewer, hparent, rfl, hmore⟩
      · exact absurd habove (not_above_of_no_parent hparent)
      · exact ih fewer (Nat.lt_succ_self fewer) hmore type (habove.eq_or_above hparent)

/-- A walk that can go all the way up comes to an answer. -/
theorem ParentsLoad.exists_findFrom (parents : current.ParentsLoad) (ends : current.EndsWithin left) :
    ∃ found, findFrom start limit key left depth current = .ok found := by
  induction left generalizing current depth with
  | zero =>
    obtain ⟨parent, hparent⟩ := parents 0 current rfl
    cases hmember : current.unit.instanceMember? key with
    | some member => exact ⟨_, findFrom_of_member hmember⟩
    | none =>
      cases parent with
      | none => exact ⟨_, findFrom_of_no_parent hmember hparent⟩
      | some above =>
        rw [EndsWithin, ancestor?_succ_of_parent hparent] at ends
        cases ends
  | succ fewer ih =>
    obtain ⟨parent, hparent⟩ := parents 0 current rfl
    cases hmember : current.unit.instanceMember? key with
    | some member => exact ⟨_, findFrom_of_member hmember⟩
    | none =>
      cases parent with
      | none => exact ⟨_, findFrom_of_no_parent hmember hparent⟩
      | some above =>
        rw [EndsWithin, ancestor?_succ_of_parent hparent] at ends
        rw [findFrom_succ hmember hparent]
        exact ih (parents.of_parent hparent) ends

theorem ParentsLoad.exists_findInChain (parents : start.ParentsLoad)
    (ends : start.EndsWithin maxHops) (key : MemberKey) :
    ∃ found, start.findInChain key maxHops = .ok found :=
  parents.exists_findFrom ends

/-- On such a way nothing is found exactly where it is silent. -/
theorem ParentsLoad.findInChain_eq_none_iff (parents : start.ParentsLoad)
    (ends : start.EndsWithin maxHops) :
    start.findInChain key maxHops = .ok none ↔ start.Silent key := by
  refine ⟨silent_of_findFrom, fun silent => ?_⟩
  obtain ⟨found, hfound⟩ := parents.exists_findInChain ends key
  cases found with
  | none => exact hfound
  | some hit => exact absurd silent (firstDeclarer_of_findInChain hfound).not_silent

/-- And the first declaring type is found, with its member. -/
theorem ParentsLoad.exists_hit (parents : start.ParentsLoad) (ends : start.EndsWithin maxHops)
    (first : FirstDeclarer key start top) {member : Member}
    (declared : top.unit.instanceMember? key = some member) :
    ∃ hit, start.findInChain key maxHops = .ok (some hit) ∧ hit.owner = top ∧
      hit.member = member := by
  obtain ⟨found, hfound⟩ := parents.exists_findInChain ends key
  cases found with
  | none => exact absurd (silent_of_findFrom hfound) first.not_silent
  | some hit =>
    obtain rfl := (firstDeclarer_of_findInChain hfound).unique first
    have hmember := (place_of_findFrom hfound).1
    exact ⟨hit, hfound, rfl, Option.some.inj (hmember.symm.trans declared)⟩

/-- A member that is found is refused for its place exactly where it is an overriding member of the
type itself that shadows nothing. -/
theorem ParentsLoad.originOf_eq_error_iff (parents : target.ParentsLoad)
    (ends : target.EndsWithin maxHops) (hfound : target.findInChain key maxHops = .ok (some hit)) :
    target.originOf hit maxHops = .error error ↔
      error = .notOverridden target.name key.name ∧
        target.unit.instanceMember? key = some hit.member ∧ hit.member.kind = .override ∧
        ¬ target.Shadows key := by
  obtain ⟨hmember, hplace⟩ := place_of_findFrom hfound
  have hkey : hit.member.key = key :=
    (CodeUnit.mem_and_key_of_member? (CodeUnit.instanceMember?_eq_some_iff.1 hmember).1).2
  rw [originOf, hkey]
  rcases hplace with ⟨howner, hdepth⟩ | ⟨-, hdepth, hsilent⟩
  · rw [howner] at hmember
    obtain ⟨parent, hparent⟩ := parents 0 target rfl
    rw [if_neg (Nat.not_lt.2 (Nat.le_of_eq hdepth)), hparent]
    cases parent with
    | none =>
      have alone : ¬ target.Shadows key := by
        rintro ⟨_, habove, _⟩
        exact not_above_of_no_parent hparent habove
      by_cases hkind : hit.member.kind = .override <;> simp [hmember, hkind, alone, eq_comm]
    | some above =>
      have hsilent : above.findInChain key maxHops = .ok none ↔ above.Silent key :=
        (parents.of_parent hparent).findInChain_eq_none_iff (ends.of_parent hparent)
      rw [← not_shadows_iff_of_parent hparent] at hsilent
      obtain ⟨found, habove⟩ :=
        (parents.of_parent hparent).exists_findInChain (ends.of_parent hparent) key
      dsimp only
      rw [habove] at hsilent ⊢
      cases found with
      | none =>
        have alone := hsilent.1 rfl
        by_cases hkind : hit.member.kind = .override <;> simp [hmember, hkind, alone, eq_comm]
      | some shadowed =>
        have shadows : target.Shadows key := by simpa using hsilent
        simp [shadows]
  · simp [hdepth, hsilent]

/-- A call on an instance that capabilities may not answer is refused for one of the three reasons,
and whenever there is one. -/
theorem ParentsLoad.bindInstance_eq_error_iff (parents : target.ParentsLoad)
    (ends : target.EndsWithin maxHops) :
    target.bindInstance key false maxHops = .error error ↔ target.Refusal key error := by
  constructor
  · intro h
    rcases findInChain_cases target key maxHops with
      ⟨cause, hfound⟩ | ⟨hit, body, hfound, hbody⟩ | ⟨found, hfound, hbodiless⟩
    · obtain ⟨found, hends⟩ := parents.exists_findInChain ends key
      cases hfound.symm.trans hends
    · rw [bindInstance_of_found hfound hbody] at h
      obtain ⟨rfl, declared, overrides, alone⟩ :=
        (parents.originOf_eq_error_iff ends hfound).1 (Except.eq_error_of_map_eq_error h)
      exact .stray declared overrides alone
    · rw [bindInstance_of_bodiless hfound hbodiless] at h
      cases found with
      | none =>
        cases h
        exact .missing (silent_of_findFrom hfound)
      | some hit =>
        cases h
        have hmember := (place_of_findFrom hfound).1
        exact .abstract (firstDeclarer_of_findInChain hfound) hmember
          ((CodeUnit.body_eq_none_iff_of_member?
            (CodeUnit.instanceMember?_eq_some_iff.1 hmember).1).1 (hbodiless hit rfl))
  · intro refusal
    cases refusal with
    | abstract first declared bodiless =>
      obtain ⟨hit, hfound, rfl, rfl⟩ := parents.exists_hit ends first declared
      exact bindInstance_eq_abstractMember_iff.2 ⟨hit, hfound, bodiless, by simp, rfl, rfl⟩
    | @stray member declared overrides alone =>
      obtain ⟨hit, hfound, howner, rfl⟩ := parents.exists_hit ends
        (.here (Option.isSome_iff_exists.2 ⟨_, declared⟩)) declared
      obtain ⟨hdeclared, -⟩ := CodeUnit.instanceMember?_eq_some_iff.1 declared
      obtain ⟨body, hbody⟩ := CodeUnit.exists_body_of_memberOfKind?
        (CodeUnit.memberOfKind?_eq_some_iff.2 ⟨hdeclared, overrides⟩) (by decide)
      rw [bindInstance_of_found hfound hbody,
        (parents.originOf_eq_error_iff ends hfound).2 ⟨rfl, declared, overrides, alone⟩]
      rfl
    | missing silent =>
      have hfound := (parents.findInChain_eq_none_iff ends).2 silent
      rw [bindInstance_of_bodiless hfound (by simp)]
      rfl

/-! ## Static members of the type itself -/

theorem OwnStatic.kind {symbol : Symbol} (own : target.OwnStatic key symbol) :
    symbol.member.kind = .static := by
  obtain ⟨member, body, hmember, -, rfl⟩ := own
  exact (CodeUnit.memberOfKind?_eq_some_iff.1 hmember).2

theorem OwnStatic.unique {symbol symbol' : Symbol} (own : target.OwnStatic key symbol)
    (own' : target.OwnStatic key symbol') : symbol = symbol' := by
  obtain ⟨member, body, hmember, hbody, rfl⟩ := own
  obtain ⟨same, words, hsame, hwords, rfl⟩ := own'
  obtain rfl := Option.some.inj (hmember.symm.trans hsame)
  obtain rfl := Option.some.inj (hbody.symm.trans hwords)
  rfl

theorem OwnStatic.staticAnswers {symbol : Symbol} (own : target.OwnStatic key symbol)
    (silent : target.Silent key) : target.StaticAnswers key := by
  obtain ⟨member, body, hmember, -, -⟩ := own
  exact ⟨silent, member, CodeUnit.memberOfKind?_eq_some_iff.1 hmember⟩

end LoadedType

namespace Resolver

variable {resolver : Resolver} {target : LoadedType} {key : MemberKey} {symbol : Symbol}
  {member : Member}

/-- A call on the type itself is bound where the type declares a static member. -/
theorem bind_static_of_some (h : target.unit.memberOfKind? .static key = some member) :
    ∃ symbol, target.OwnStatic key symbol ∧ resolver.bind target key .static = .ok symbol := by
  obtain ⟨body, hbody, hsymbol⟩ := LoadedType.typeSymbol_eq_ok .static h (by decide)
  refine ⟨_, ⟨member, body, h, hbody, rfl⟩, ?_⟩
  rw [bind, h]
  exact hsymbol

/-- Elsewhere it fails as a plain call does that finds no member. -/
theorem bind_static_of_none (h : target.unit.memberOfKind? .static key = none) :
    resolver.bind target key .static = .error (target.noSuchMember key) := by
  rw [bind, h]

/-- A plain call is bound to an instance member. -/
theorem isInstance_of_bind_virtual (h : resolver.bind target key .virtual = .ok symbol) :
    symbol.member.kind.isInstance = true := by
  rw [InstanceCall.bind_eq .virtual] at h
  obtain ⟨binding, hbinding, h⟩ := Except.bind_eq_ok_iff.1 h
  obtain ⟨-, rfl⟩ := conclude_eq_ok_iff.1 h
  exact (supplier_of_bindInstance hbinding).2.1

theorem kind_ne_static_of_bind_virtual (h : resolver.bind target key .virtual = .ok symbol) :
    symbol.member.kind ≠ .static := by
  intro hkind
  have hinstance := isInstance_of_bind_virtual h
  rw [hkind] at hinstance
  cases hinstance

end Resolver

namespace Namespace

variable {space : Namespace} {type : QualifiedName} {target : LoadedType} {key : MemberKey}

/-- What a direct call of a member comes to on a type, said by the members on the way up from it and by
the plain call. -/
structure DirectCall (space : Namespace) (type : QualifiedName) (key : MemberKey)
    (target : LoadedType) : Prop where
  /-- The type has the name that it was asked for by. -/
  name_eq : target.name = type
  /-- A static member is bound exactly where the way up is silent and the type itself declares it. -/
  static_iff : (∃ symbol, space.resolve type key = .ok symbol ∧ symbol.member.kind = .static) ↔
    target.StaticAnswers key
  /-- It is the member of the type itself, never one of a type above it. -/
  static_own : ∀ symbol, space.resolve type key = .ok symbol → symbol.member.kind = .static →
    symbol.owner = target ∧ target.unit.member? key = some symbol.member ∧
      symbol.member.body = some symbol.body ∧ symbol.origin = .declared ∧ symbol.receiver = none
  /-- An instance member is bound exactly where the plain call binds one, and in the same way. -/
  instance_iff : ∀ symbol,
    space.resolve type key = .ok symbol ∧ symbol.member.kind.isInstance = true ↔
      (Resolver.ofNamespace space).resolve ⟨type, key, .virtual⟩ = .ok symbol
  /-- Nothing else is bound. -/
  kind_of_bound : ∀ symbol, space.resolve type key = .ok symbol →
    symbol.member.kind = .static ∨ symbol.member.kind.isInstance = true
  /-- In all other cases the failure is that of the plain call. -/
  error_iff : ∀ error, space.resolve type key = .error error ↔
    (Resolver.ofNamespace space).resolve ⟨type, key, .virtual⟩ = .error error ∧
      ¬ target.StaticAnswers key
  /-- And the plain call fails for one of three reasons. -/
  virtual_error_iff : ∀ error,
    (Resolver.ofNamespace space).resolve ⟨type, key, .virtual⟩ = .error error ↔
      target.Refusal key error

/-- On a way up that is over within the bound, a plain call fails for one of the three reasons. -/
theorem bind_virtual_eq_error_iff (parents : target.ParentsLoad)
    (ends : target.EndsWithin space.layer.maxHops) {error : BindingError} :
    (Resolver.ofNamespace space).bind target key .virtual = .error error ↔
      target.Refusal key error :=
  Resolver.bind_virtual_eq_error_iff.trans (parents.bindInstance_eq_error_iff ends)

/-- A direct call keeps the binding of the plain call, or is bound to a static member of the type
itself where the way up is silent, or hands on the failure of the plain call. -/
theorem resolve_cases (hload : space.load type = .ok target) (parents : target.ParentsLoad)
    (ends : target.EndsWithin space.layer.maxHops) (key : MemberKey) :
    (∃ symbol, (Resolver.ofNamespace space).bind target key .virtual = .ok symbol ∧
        ¬ target.Silent key ∧ space.resolve type key = .ok symbol) ∨
      (∃ symbol, (Resolver.ofNamespace space).bind target key .virtual =
          .error (target.noSuchMember key) ∧ target.Silent key ∧ target.OwnStatic key symbol ∧
        space.resolve type key = .ok symbol) ∨
      ∃ error, (Resolver.ofNamespace space).bind target key .virtual = .error error ∧
        ¬ target.StaticAnswers key ∧ space.resolve type key = .error error := by
  have hresolve : ∀ dispatch, (Resolver.ofNamespace space).resolve ⟨type, key, dispatch⟩ =
      (Resolver.ofNamespace space).bind target key dispatch :=
    fun dispatch => Resolver.resolve_of_load hload
  rw [Namespace.resolve, hresolve, hresolve]
  cases hvirtual : (Resolver.ofNamespace space).bind target key .virtual with
  | ok symbol =>
    refine Or.inl ⟨symbol, rfl, fun silent => ?_, rfl⟩
    rw [(bind_virtual_eq_error_iff parents ends).2 (.missing silent)] at hvirtual
    cases hvirtual
  | error error =>
    refine Or.inr ?_
    -- only the failure that names no member is followed by the call on the type itself
    cases (bind_virtual_eq_error_iff parents ends).1 hvirtual with
    | abstract first declared bodiless =>
      exact Or.inr ⟨_, rfl, fun answers => first.not_silent answers.1, rfl⟩
    | stray declared overrides alone =>
      refine Or.inr ⟨_, rfl, fun answers => ?_, rfl⟩
      cases (answers.1 target (Or.inl rfl)).symm.trans declared
    | missing silent =>
      cases hmember : target.unit.memberOfKind? .static key with
      | some member =>
        obtain ⟨symbol, own, hbind⟩ := Resolver.bind_static_of_some hmember
        exact Or.inl ⟨symbol, rfl, silent, own, hbind⟩
      | none =>
        refine Or.inr ⟨_, rfl, ?_, Resolver.bind_static_of_none hmember⟩
        rintro ⟨-, member, hdeclared, hkind⟩
        cases hmember.symm.trans (CodeUnit.memberOfKind?_eq_some_iff.2 ⟨hdeclared, hkind⟩)

/-- A direct call is bound to what the plain call is bound to, or to the static member of the type
itself. -/
theorem resolve_eq_ok_iff (hload : space.load type = .ok target) (parents : target.ParentsLoad)
    (ends : target.EndsWithin space.layer.maxHops) {symbol : Symbol} :
    space.resolve type key = .ok symbol ↔
      (Resolver.ofNamespace space).bind target key .virtual = .ok symbol ∨
        target.Silent key ∧ target.OwnStatic key symbol := by
  rcases resolve_cases hload parents ends key with
    ⟨bound, hvirtual, hdeclared, hdirect⟩ |
    ⟨bound, hvirtual, silent, hbound, hdirect⟩ | ⟨error, hvirtual, hanswers, hdirect⟩
  · simp [hdirect, hvirtual, hdeclared]
  · rw [hdirect, hvirtual]
    constructor
    · rintro ⟨⟩
      exact Or.inr ⟨silent, hbound⟩
    · rintro (hplain | ⟨-, own⟩)
      · cases hplain
      · rw [hbound.unique own]
  · rw [hdirect, hvirtual]
    refine iff_of_false (by simp) ?_
    rintro (hplain | ⟨silent, own⟩)
    · cases hplain
    · exact hanswers (own.staticAnswers silent)

/-- It fails exactly where the plain call fails and no static member of the type itself answers, and
in the same way. -/
theorem resolve_eq_error_iff (hload : space.load type = .ok target) (parents : target.ParentsLoad)
    (ends : target.EndsWithin space.layer.maxHops) {error : BindingError} :
    space.resolve type key = .error error ↔
      (Resolver.ofNamespace space).bind target key .virtual = .error error ∧
        ¬ target.StaticAnswers key := by
  rcases resolve_cases hload parents ends key with
    ⟨bound, hvirtual, hdeclared, hdirect⟩ |
    ⟨bound, hvirtual, silent, hbound, hdirect⟩ | ⟨error, hvirtual, hanswers, hdirect⟩
  · simp [hdirect, hvirtual]
  · simp [hdirect, hbound.staticAnswers silent]
  · simp [hdirect, hvirtual, hanswers]

/-- A direct call on a type whose parents load, on a way up that is over within the bound. A static
member is bound exactly where no type on the way up declares an instance member under the key and the
type itself declares a static one, and then it is that member; static members of the types above are
never bound. An instance member is bound exactly where the plain call binds it, as the same symbol. In
all other cases the failure is that of the plain call: the first instance member is abstract, or the
type's own member overrides nothing, or there is no member, which names the type asked for. -/
theorem directCall (hload : space.load type = .ok target) (parents : target.ParentsLoad)
    (ends : target.EndsWithin space.layer.maxHops) (key : MemberKey) :
    space.DirectCall type key target := by
  have hresolve : (Resolver.ofNamespace space).resolve ⟨type, key, .virtual⟩ =
      (Resolver.ofNamespace space).bind target key .virtual := Resolver.resolve_of_load hload
  constructor
  case name_eq => exact (LoadedType.within_of_load hload).2
  case static_iff =>
    constructor
    · rintro ⟨symbol, hdirect, hkind⟩
      rcases (resolve_eq_ok_iff hload parents ends).1 hdirect with hvirtual | ⟨silent, own⟩
      · exact absurd hkind (Resolver.kind_ne_static_of_bind_virtual hvirtual)
      · exact own.staticAnswers silent
    · rintro ⟨silent, member, hdeclared, hkind⟩
      have hmember := CodeUnit.memberOfKind?_eq_some_iff.2 ⟨hdeclared, hkind⟩
      obtain ⟨body, hbody⟩ := CodeUnit.exists_body_of_memberOfKind? hmember (by decide)
      exact ⟨_, (resolve_eq_ok_iff hload parents ends).2
        (Or.inr ⟨silent, member, body, hmember, hbody, rfl⟩), hkind⟩
  case static_own =>
    intro symbol hdirect hkind
    rcases (resolve_eq_ok_iff hload parents ends).1 hdirect with hvirtual | ⟨-, own⟩
    · exact absurd hkind (Resolver.kind_ne_static_of_bind_virtual hvirtual)
    · obtain ⟨member, body, hmember, hbody, rfl⟩ := own
      exact ⟨rfl, (CodeUnit.memberOfKind?_eq_some_iff.1 hmember).1, hbody, rfl, rfl⟩
  case instance_iff =>
    intro symbol
    rw [hresolve]
    constructor
    · rintro ⟨hdirect, hinstance⟩
      rcases (resolve_eq_ok_iff hload parents ends).1 hdirect with hvirtual | ⟨-, own⟩
      · exact hvirtual
      · rw [own.kind] at hinstance
        cases hinstance
    · intro hvirtual
      exact ⟨(resolve_eq_ok_iff hload parents ends).2 (Or.inl hvirtual),
        Resolver.isInstance_of_bind_virtual hvirtual⟩
  case kind_of_bound =>
    intro symbol hdirect
    rcases (resolve_eq_ok_iff hload parents ends).1 hdirect with hvirtual | ⟨-, own⟩
    · exact Or.inr (Resolver.isInstance_of_bind_virtual hvirtual)
    · exact Or.inl own.kind
  case error_iff =>
    intro error
    rw [hresolve]
    exact resolve_eq_error_iff hload parents ends
  case virtual_error_iff =>
    intro error
    rw [hresolve]
    exact bind_virtual_eq_error_iff parents ends

end Namespace

/-! ## Static members on two levels -/

namespace Heirloom

/-- A member that only the class above declares, as a static one. -/
def make : MemberKey := ⟨"make", ⟨[]⟩⟩

/-- A member that both classes declare, the class below as a static one. -/
def run : MemberKey := ⟨"run", ⟨[]⟩⟩

/-- The class above. -/
def elder : CodeUnit :=
  Fork.unit "Elder" .concreteClass none [] [⟨make, .static, some (.transfer "M")⟩,
    ⟨run, .virtual, some (.transfer "E")⟩] (by decide)

/-- The class below. -/
def younger : CodeUnit :=
  Fork.unit "Younger" .concreteClass (some ⟨"Elder"⟩) [] [⟨run, .static, some (.transfer "Y")⟩]
    (by decide)

/-- The namespace of both, with just enough hops. -/
def space : Namespace := .root ⟨0, "heirloom", .isolated, ⟨[elder, younger], by decide⟩, 1⟩

theorem parent_younger : LoadedType.parent ⟨younger, space⟩ = .ok (some ⟨elder, space⟩) := rfl

theorem parent_elder : LoadedType.parent ⟨elder, space⟩ = .ok none := rfl

theorem parentsLoad_elder : LoadedType.ParentsLoad ⟨elder, space⟩ := by
  intro links type h
  cases links with
  | zero =>
    cases h
    exact ⟨_, parent_elder⟩
  | succ links =>
    rw [LoadedType.ancestor?_succ_of_no_parent parent_elder] at h
    cases h

theorem parentsLoad_younger : LoadedType.ParentsLoad ⟨younger, space⟩ := by
  intro links type h
  cases links with
  | zero =>
    cases h
    exact ⟨_, parent_younger⟩
  | succ links =>
    rw [LoadedType.ancestor?_succ_of_parent parent_younger] at h
    exact parentsLoad_elder links type h

/-- The way up from the class below, which declares no instance member `make`. -/
theorem silent_younger : LoadedType.Silent ⟨younger, space⟩ make := by
  rintro type (rfl | habove)
  · rfl
  · rcases habove.eq_or_above parent_younger with rfl | hmore
    · rfl
    · exact absurd hmore (LoadedType.not_above_of_no_parent parent_elder)

/-- The instance member of the class above, called on the class below. -/
def inherited : Symbol :=
  ⟨⟨elder, space⟩, .virtual, ⟨run, .virtual, some (.transfer "E")⟩, .transfer "E",
    .inherited ⟨"Elder"⟩, some ⟨⟨younger, space⟩, none⟩⟩

end Heirloom

/-- The static member of the class below does not hide the instance member above it, and the static
member of the class above is bound on that class only. -/
theorem Namespace.directCall_heirloom :
    Heirloom.space.resolve ⟨"Younger"⟩ Heirloom.run = .ok Heirloom.inherited ∧
      Heirloom.space.resolve ⟨"Younger"⟩ Heirloom.make =
        .error (.noSuchMember ⟨"Younger"⟩ "make" "()") ∧
      ∃ symbol, Heirloom.space.resolve ⟨"Elder"⟩ Heirloom.make = .ok symbol ∧
        symbol.member.kind = .static := by
  have younger : ∀ key, Heirloom.space.DirectCall ⟨"Younger"⟩ key ⟨Heirloom.younger, Heirloom.space⟩ :=
    directCall rfl Heirloom.parentsLoad_younger rfl
  have elder : ∀ key, Heirloom.space.DirectCall ⟨"Elder"⟩ key ⟨Heirloom.elder, Heirloom.space⟩ :=
    directCall rfl Heirloom.parentsLoad_elder rfl
  refine ⟨?_, ?_, ?_⟩
  · exact (((younger Heirloom.run).instance_iff Heirloom.inherited).2 rfl).1
  · refine ((younger Heirloom.make).error_iff _).2 ⟨?_, fun answers => ?_⟩
    · exact ((younger Heirloom.make).virtual_error_iff _).2 (.missing Heirloom.silent_younger)
    · obtain ⟨-, member, hdeclared, -⟩ := answers
      cases hdeclared
  · refine (elder Heirloom.make).static_iff.2 ⟨?_, _, rfl, rfl⟩
    rintro type (rfl | habove)
    · rfl
    · exact absurd habove (LoadedType.not_above_of_no_parent Heirloom.parent_elder)

end Linkage
