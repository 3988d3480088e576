import Linkage.Proofs.BoundSymbols

/-!
# Shadowing

An overriding member is there to shadow: something above the type that declares it must declare an
instance member under the same key, `LoadedType.Shadows`. Whether it does is looked at in
`LoadedType.originOf` when the member lies on the type asked for, and not when it lies above that.

`Resolver.shadows_of_resolve` says what is left. On the type asked for, a bound overriding member
shadows; on a type above, it shadows exactly when the same call on its owner is bound within some
bound. `Stray` is a class whose overriding member shadows nothing: it cannot be called on the class
and can be called on the class below (`Resolver.not_shadows_stray`).
-/

namespace Linkage

namespace LoadedType

/-- Whether something above a type declares an instance member under a key. -/
def Shadows (type : LoadedType) (key : MemberKey) : Prop :=
  ∃ top, type.Above top ∧ (top.unit.instanceMember? key).isSome = true

variable {type top target : LoadedType} {key : MemberKey} {maxHops : Nat}

/-! ## Looking above a type -/

/-- A walk from the parent finds a member when something above the type declares one, if it may take
enough steps. -/
theorem Above.exists_findFrom (above : type.Above top)
    (declares : (top.unit.instanceMember? key).isSome = true) :
    ∃ next left, type.parent = .ok (some next) ∧
      ∀ start limit depth, ∃ hit, findFrom start limit key left depth next = .ok (some hit) := by
  obtain ⟨declared, hdeclared⟩ := Option.isSome_iff_exists.1 declares
  induction above with
  | parent parent_loads => exact ⟨_, 0, parent_loads, fun _ _ _ => ⟨_, findFrom_of_member hdeclared⟩⟩
  | @further type next top parent_loads more ih =>
    -- the walk may end earlier than at the type that is known to declare the member
    cases hmember : next.unit.instanceMember? key with
    | some member => exact ⟨next, 0, parent_loads, fun _ _ _ => ⟨_, findFrom_of_member hmember⟩⟩
    | none =>
      obtain ⟨further, left, hparent, hfinds⟩ := ih declares hdeclared
      refine ⟨next, left + 1, parent_loads, fun start limit depth => ?_⟩
      rw [findFrom_succ hmember hparent]
      exact hfinds start limit (depth + 1)

/-- What is shadowed is found from the parent within some bound, and nothing else is. -/
theorem shadows_iff_exists_findInChain :
    type.Shadows key ↔ ∃ hops next hit, type.parent = .ok (some next) ∧
      next.findInChain key hops = .ok (some hit) := by
  constructor
  · rintro ⟨top, above, declares⟩
    obtain ⟨next, left, hparent, hfinds⟩ := above.exists_findFrom declares
    obtain ⟨hit, hhit⟩ := hfinds next left 0
    exact ⟨left, next, hit, hparent, hhit⟩
  · rintro ⟨hops, next, hit, hparent, hfound⟩
    obtain ⟨hmember, hplace⟩ := place_of_findFrom hfound
    refine ⟨hit.owner, ?_, Option.isSome_iff_exists.2 ⟨_, hmember⟩⟩
    rcases hplace with ⟨howner, -⟩ | ⟨habove, -⟩
    · rw [howner]
      exact .parent hparent
    · exact .further hparent habove

/-- An overriding member of the type itself lies somewhere exactly when a walk from the parent finds
what it shadows. -/
theorem exists_originOf_iff {hit : Hit} (hdepth : hit.depth = 0)
    (hkind : hit.member.kind = .override) :
    (∃ origin, target.originOf hit maxHops = .ok origin) ↔
      ∃ next shadowed, target.parent = .ok (some next) ∧
        next.findInChain hit.member.key maxHops = .ok (some shadowed) := by
  rw [originOf, if_neg (by omega)]
  cases target.parent with
  | error error => simp
  | ok parent =>
    cases parent with
    | none => simp [hkind]
    | some next =>
      dsimp only
      cases hfound : next.findInChain hit.member.key maxHops with
      | error error => simp [hfound]
      | ok shadowed => cases shadowed <;> simp [hfound, hkind]

/-- An overriding member of the type itself that lies somewhere shadows. -/
theorem shadows_of_originOf {hit : Hit} {origin : Origin} (hdepth : hit.depth = 0)
    (hkind : hit.member.kind = .override) (h : target.originOf hit maxHops = .ok origin) :
    target.Shadows hit.member.key := by
  obtain ⟨next, shadowed, hparent, hfound⟩ := (exists_originOf_iff hdepth hkind).1 ⟨origin, h⟩
  exact shadows_iff_exists_findInChain.2 ⟨maxHops, next, shadowed, hparent, hfound⟩

/-- Only a member of the type itself is placed as a shadowing one. -/
theorem depth_eq_zero_of_isOverridden {hit : Hit} {origin : Origin}
    (h : target.originOf hit maxHops = .ok origin) (hplace : origin.isOverridden = true) :
    hit.depth = 0 := by
  rw [originOf] at h
  split at h
  · cases h
    cases hplace
  · next hdepth => exact Nat.eq_zero_of_not_pos hdepth

/-- An overriding member of a type shadows exactly when it can be bound on that type within some
bound. -/
theorem shadows_iff_exists_bindInstance {member : Member} {body : Body}
    (hmember : type.unit.instanceMember? key = some member) (hkind : member.kind = .override)
    (hbody : member.body = some body) :
    type.Shadows key ↔ ∃ hops binding, type.bindInstance key false hops = .ok binding := by
  have hkey : member.key = key :=
    (CodeUnit.mem_and_key_of_member? (CodeUnit.instanceMember?_eq_some_iff.1 hmember).1).2
  have hbinds : ∀ hops, (∃ binding, type.bindInstance key false hops = .ok binding) ↔
      ∃ next shadowed, type.parent = .ok (some next) ∧
        next.findInChain key hops = .ok (some shadowed) := by
    intro hops
    have hfound : type.findInChain key hops = .ok (some ⟨type, member, 0⟩) :=
      findFrom_of_member hmember
    have horigin : (∃ origin, type.originOf ⟨type, member, 0⟩ hops = .ok origin) ↔
        ∃ next shadowed, type.parent = .ok (some next) ∧
          next.findInChain member.key hops = .ok (some shadowed) := exists_originOf_iff rfl hkind
    rw [hkey] at horigin
    rw [bindInstance_of_found hfound hbody, ← horigin]
    constructor
    · rintro ⟨binding, hbinding⟩
      obtain ⟨origin, hplace, -⟩ := Except.map_eq_ok_iff.1 hbinding
      exact ⟨origin, hplace⟩
    · rintro ⟨origin, hplace⟩
      exact ⟨_, Except.map_eq_ok_iff.2 ⟨origin, hplace, rfl⟩⟩
  rw [shadows_iff_exists_findInChain]
  exact exists_congr fun hops => (hbinds hops).symm

/-! ## Members that are bound -/

/-- A default that is chosen is a default member, and is said to come from its capability. -/
theorem default_of_chooseDefault {binding : InstanceBinding}
    (h : target.chooseDefault key maxHops = .ok (some binding)) :
    binding.hit.member.kind = .default ∧ binding.origin = .default binding.hit.owner.name := by
  constructor
  · obtain ⟨hits, hhits, hmem, -⟩ := collected_of_chooseDefault h
    rcases mem_of_collectFrom hhits hmem with hnone | ⟨_, _, _, -, -, hoffer⟩
    · cases hnone
    · exact (CodeUnit.memberOfKind?_eq_some_iff.1 (mem_supplied hoffer).2).2
  · obtain ⟨hits, -, h⟩ := Except.bind_eq_ok_iff.1 h
    split at h
    · cases h
    · obtain ⟨body, -, h⟩ := Except.bind_eq_ok_iff.1 h
      cases h
      rfl
    · cases h

end LoadedType

namespace Resolver

variable {resolver : Resolver} {target : LoadedType} {key : MemberKey} {dispatch : Dispatch}
  {symbol : Symbol} {request : Request}

/-- A call on the type itself is bound to a member that needs no receiver and is declared there. -/
theorem declared_of_needsReceiver_eq_false (hreceiver : dispatch.needsReceiver = false)
    (h : resolver.bind target key dispatch = .ok symbol) :
    symbol.member.kind.isInstance = false ∧ symbol.origin = .declared := by
  have hkept : ∀ member kind, target.unit.memberOfKind? kind key = some member →
      target.typeSymbol dispatch member = .ok symbol →
        symbol.member.kind = kind ∧ symbol.origin = .declared := by
    intro member kind hmember hsymbol
    obtain ⟨body, -, hsymbol⟩ := Except.bind_eq_ok_iff.1 hsymbol
    cases hsymbol
    exact ⟨(CodeUnit.memberOfKind?_eq_some_iff.1 hmember).2, rfl⟩
  cases dispatch with
  | static =>
    rw [bind] at h
    split at h
    · next member hmember =>
      obtain ⟨hkind, horigin⟩ := hkept member .static hmember h
      exact ⟨by rw [hkind]; rfl, horigin⟩
    · cases h
  | interfaceStatic =>
    rw [bind] at h
    split at h
    · split at h
      · next member hmember =>
        split at h
        · obtain ⟨hkind, horigin⟩ := hkept member .interfaceStatic hmember h
          exact ⟨by rw [hkind]; rfl, horigin⟩
        · cases h
      · cases h
    · cases h
  | _ => cases hreceiver

/-- A call that asks for a shadowing member concludes with one that is placed as such. -/
theorem isOverridden_of_conclude {reference : Option LoadedType} {binding : InstanceBinding}
    (h : conclude target key .overridden reference binding = .ok symbol) :
    symbol.origin.isOverridden = true := by
  rw [conclude] at h
  split at h
  · cases h
  · split at h
    · cases h
    · next hplace =>
      cases h
      simpa [InstanceBinding.symbol] using hplace

/-- A member is bound where a walk from the target finds it and `originOf` has placed it, or as a
default, or on the target itself without a receiver. -/
theorem found_or_default_or_declared_of_bind
    (h : resolver.bind target key dispatch = .ok symbol) :
    (∃ hit, target.findInChain key resolver.maxHops = .ok (some hit) ∧
      target.originOf hit resolver.maxHops = .ok symbol.origin ∧ hit.owner = symbol.owner ∧
      hit.member = symbol.member) ∨
    (symbol.member.kind = .default ∧ symbol.origin = .default symbol.owner.name) ∨
    (symbol.member.kind.isInstance = false ∧ symbol.origin = .declared) := by
  by_cases hreceiver : dispatch.needsReceiver = true
  · obtain ⟨reference, withDefaults, call⟩ := exists_instanceCall hreceiver h
    rw [call.bind_eq] at h
    obtain ⟨binding, hbinding, h⟩ := Except.bind_eq_ok_iff.1 h
    obtain rfl := symbol_of_conclude h
    rcases LoadedType.found_or_chosen_of_bindInstance hbinding with ⟨hfound, -, horigin⟩ | hchosen
    · exact Or.inl ⟨binding.hit, hfound, horigin, rfl, rfl⟩
    · exact Or.inr (Or.inl (LoadedType.default_of_chooseDefault hchosen))
  · exact Or.inr (Or.inr (declared_of_needsReceiver_eq_false (eq_false_of_ne_true hreceiver) h))

/-- A call that asks for a shadowing member gets one that is placed as such. -/
theorem isOverridden_of_bind (h : resolver.bind target key .overridden = .ok symbol) :
    symbol.origin.isOverridden = true := by
  rw [InstanceCall.bind_eq .overridden] at h
  obtain ⟨binding, -, h⟩ := Except.bind_eq_ok_iff.1 h
  exact isOverridden_of_conclude h

/-- A bound overriding member lies where a walk from the target finds it, and `originOf` has placed
it there. A call that asks for a shadowing member gets one that is placed as such. -/
theorem found_of_bind (hkind : symbol.member.kind = .override)
    (h : resolver.bind target key dispatch = .ok symbol) :
    ∃ hit, target.findInChain key resolver.maxHops = .ok (some hit) ∧
      target.originOf hit resolver.maxHops = .ok symbol.origin ∧ hit.owner = symbol.owner ∧
      hit.member = symbol.member ∧
      (dispatch = .overridden → symbol.origin.isOverridden = true) := by
  rcases found_or_default_or_declared_of_bind h with
    ⟨hit, hfound, horigin, howner, hmember⟩ | ⟨hdefault, -⟩ | ⟨hinstance, -⟩
  · refine ⟨hit, hfound, horigin, howner, hmember, ?_⟩
    rintro rfl
    exact isOverridden_of_bind h
  · cases hkind.symm.trans hdefault
  · rw [hkind] at hinstance
    cases hinstance

/-- A call on an instance that demands nothing further is bound when the member is. -/
theorem exists_bind_virtual_iff (resolver : Resolver) :
    (∃ bound, resolver.bind target key .virtual = .ok bound) ↔
      ∃ binding, target.bindInstance key false resolver.maxHops = .ok binding := by
  rw [InstanceCall.bind_eq .virtual]
  constructor
  · rintro ⟨bound, hbound⟩
    obtain ⟨binding, hbinding, -⟩ := Except.bind_eq_ok_iff.1 hbound
    exact ⟨binding, hbinding⟩
  · rintro ⟨binding, hbinding⟩
    exact ⟨_, Except.bind_eq_ok_iff.2 ⟨binding, hbinding, rfl⟩⟩

/-- An overriding member that a request comes to, on the type asked for or on one above it. On the
type asked for it shadows something further up, and so it does for every call that asks for a
shadowing member. On a type above it need not: it shadows exactly when the call is bound on its
owner as well, within some bound. -/
theorem shadows_of_resolve (h : resolver.resolve request = .ok symbol)
    (hkind : symbol.member.kind = .override) :
    ∃ target, resolver.space.load request.type = .ok target ∧
      (symbol.owner = target ∨ target.Above symbol.owner) ∧
      (symbol.owner = target ∨ request.dispatch = .overridden →
        symbol.owner.Shadows request.member) ∧
      (symbol.owner.Shadows request.member ↔ ∃ hops bound,
        { resolver with maxHops := hops }.bind symbol.owner request.member .virtual =
          .ok bound) := by
  obtain ⟨target, hload, hbind, hsymbol⟩ := exists_target_of_resolve h
  obtain ⟨hit, hfound, horigin, howner, hmember, hoverridden⟩ := found_of_bind hkind hbind
  obtain ⟨hdeclared, hplace⟩ := LoadedType.place_of_findFrom hfound
  rw [howner, hmember] at hdeclared
  rw [howner] at hplace
  have hkey : symbol.member.key = request.member :=
    (CodeUnit.mem_and_key_of_member? hsymbol.member_declared).2
  have hdepth : symbol.owner = target ∨ request.dispatch = .overridden → hit.depth = 0 := by
    rintro (hself | hasked)
    · rcases hplace with ⟨-, hdepth⟩ | ⟨-, -, hnone⟩
      · exact hdepth
      · -- the walk found nothing on the target, so the owner is another type
        rw [← hself, hdeclared] at hnone
        cases hnone
    · exact LoadedType.depth_eq_zero_of_isOverridden horigin (hoverridden hasked)
  refine ⟨target, hload, hplace.imp And.left And.left, fun hown => ?_, ?_⟩
  · have hshadows := LoadedType.shadows_of_originOf (hdepth hown) (hmember ▸ hkind) horigin
    rw [hmember, hkey] at hshadows
    rcases hplace with ⟨hself, -⟩ | ⟨-, hpos, -⟩
    · rw [hself]
      exact hshadows
    · exact absurd (hdepth hown) (Nat.ne_of_gt hpos)
  · rw [LoadedType.shadows_iff_exists_bindInstance hdeclared hkind hsymbol.body_declared]
    exact exists_congr fun hops =>
      (exists_bind_virtual_iff { resolver with maxHops := hops }).symm

end Resolver

/-! ## A class that shadows nothing -/

namespace Stray

/-- The member that every class but the lowest ones declares. -/
def key : MemberKey := ⟨"run", ⟨[]⟩⟩

/-- A class with a member to shadow. -/
def root : CodeUnit :=
  Fork.unit "Root" .concreteClass none [] [⟨key, .virtual, some (.transfer "R")⟩] (by decide)

/-- A class that shadows it. -/
def heir : CodeUnit :=
  Fork.unit "Heir" .concreteClass (some ⟨"Root"⟩) [] [⟨key, .override, some (.transfer "H")⟩]
    (by decide)

/-- A class that would have to shadow something and has nothing above it. -/
def stray : CodeUnit :=
  Fork.unit "Stray" .concreteClass none [] [⟨key, .override, some (.transfer "S")⟩] (by decide)

/-- A class below it that leaves the answer to it. -/
def follower : CodeUnit := Fork.unit "Follower" .concreteClass (some ⟨"Stray"⟩) [] [] (by decide)

/-- The namespace of all four. -/
def space : Namespace :=
  .root ⟨0, "stray", .isolated, ⟨[root, heir, stray, follower], by decide⟩, 32⟩

/-- The answer of the shadowing class. -/
def shadowing : Symbol :=
  ⟨⟨heir, space⟩, .virtual, ⟨key, .override, some (.transfer "H")⟩, .transfer "H",
    .overridden ⟨"Root"⟩, some ⟨⟨heir, space⟩, none⟩⟩

/-- The answer of the class that shadows nothing. -/
def idle : Symbol :=
  ⟨⟨stray, space⟩, .virtual, ⟨key, .override, some (.transfer "S")⟩, .transfer "S",
    .inherited ⟨"Stray"⟩, some ⟨⟨follower, space⟩, none⟩⟩

theorem resolve_heir :
    (Resolver.ofNamespace space).resolve ⟨⟨"Heir"⟩, key, .virtual⟩ = .ok shadowing := rfl

theorem resolve_follower :
    (Resolver.ofNamespace space).resolve ⟨⟨"Follower"⟩, key, .virtual⟩ = .ok idle := rfl

theorem resolve_stray :
    (Resolver.ofNamespace space).resolve ⟨⟨"Stray"⟩, key, .virtual⟩ =
      .error (.notOverridden ⟨"Stray"⟩ "run") := rfl

theorem not_above (top : LoadedType) : ¬ (⟨stray, space⟩ : LoadedType).Above top := by
  intro h
  cases h with
  | parent parent_loads => cases parent_loads
  | further parent_loads _ => cases parent_loads

end Stray

/-- The class with a member to shadow lies above the one that shadows it. -/
theorem Resolver.shadows_heir :
    Stray.shadowing.member.kind = .override ∧ Stray.shadowing.owner.Shadows Stray.key := by
  obtain ⟨target, hload, -, hshadows, -⟩ := shadows_of_resolve Stray.resolve_heir rfl
  cases hload
  exact ⟨rfl, hshadows (Or.inl rfl)⟩

/-- The overriding member of a class without a parent cannot be called on that class and can be
called on the class below, where it still shadows nothing. -/
theorem Resolver.not_shadows_stray :
    (Resolver.ofNamespace Stray.space).resolve ⟨⟨"Stray"⟩, Stray.key, .virtual⟩ =
        .error (.notOverridden ⟨"Stray"⟩ "run") ∧
      (Resolver.ofNamespace Stray.space).resolve ⟨⟨"Follower"⟩, Stray.key, .virtual⟩ =
        .ok Stray.idle ∧
      Stray.idle.member.kind = .override ∧ ¬ Stray.idle.owner.Shadows Stray.key := by
  refine ⟨Stray.resolve_stray, Stray.resolve_follower, rfl, ?_⟩
  rintro ⟨top, above, -⟩
  exact Stray.not_above top above

end Linkage
