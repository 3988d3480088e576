import Linkage.Proofs.Shadowing

/-!
# What a member shadows

A member of the type asked for is said to shadow the nearest instance member under its key above
that type, `LoadedType.NearestAbove`. Parents may go round in a circle, and then the way up comes back
to the type it started from. `Resolver.shadowed_of_resolve` says what is reported: the nearest
declaring type above the owner, and this is the owner itself exactly when the owner lies above itself
and nothing else above it declares the key.

`Ring` is such a circle. Its only overriding member shadows itself, and both a plain call and a call
that asks for a shadowing member are bound to it (`Resolver.shadowed_ring`).
-/

namespace Linkage

namespace LoadedType

/-- Whether a type is the nearest one above another type that declares an instance member under a
key. -/
inductive NearestAbove (key : MemberKey) : LoadedType → LoadedType → Prop where
  | parent {type above : LoadedType} (parent_loads : type.parent = .ok (some above))
      (declares : (above.unit.instanceMember? key).isSome = true) : NearestAbove key type above
  | further {type above top : LoadedType} (parent_loads : type.parent = .ok (some above))
      (silent : above.unit.instanceMember? key = none) (more : NearestAbove key above top) :
      NearestAbove key type top

variable {start current next type top other target : LoadedType} {key : MemberKey}
  {limit left depth maxHops : Nat}

/-! ## The nearest declaring type -/

theorem NearestAbove.above (nearest : NearestAbove key type top) : type.Above top := by
  induction nearest with
  | parent parent_loads _ => exact .parent parent_loads
  | further parent_loads _ _ ih => exact .further parent_loads ih

theorem NearestAbove.declares (nearest : NearestAbove key type top) :
    (top.unit.instanceMember? key).isSome = true := by
  induction nearest with
  | parent _ declares => exact declares
  | further _ _ _ ih => exact ih

/-- A walk that starts at the parent of a type finds the nearest declaring type above it. -/
theorem nearestAbove_of_findFrom {hit : Hit} (hparent : type.parent = .ok (some current))
    (h : findFrom start limit key left depth current = .ok (some hit)) :
    NearestAbove key type hit.owner := by
  induction left using Nat.strongRecOn generalizing depth type current with
  | ind left ih =>
    cases hmember : current.unit.instanceMember? key with
    | some member =>
      rw [findFrom_of_member hmember] at h
      cases h
      exact .parent hparent (Option.isSome_iff_exists.2 ⟨member, hmember⟩)
    | none =>
      rcases findFrom_eq_some h with ⟨hfound, -⟩ | ⟨above, fewer, hnext, rfl, hmore⟩
      · cases hmember.symm.trans hfound
      · exact .further hparent hmember (ih fewer (Nat.lt_succ_self fewer) hnext hmore)

/-- The nearest declaring type above a type is its parent, or the nearest one above the parent, which
then declares nothing. -/
theorem NearestAbove.eq_or_of_parent (nearest : NearestAbove key type top)
    (hparent : type.parent = .ok (some next)) :
    next = top ∨ next.unit.instanceMember? key = none ∧ NearestAbove key next top := by
  cases nearest with
  | parent parent_loads _ =>
    cases parent_loads.symm.trans hparent
    exact Or.inl rfl
  | further parent_loads silent more =>
    cases parent_loads.symm.trans hparent
    exact Or.inr ⟨silent, more⟩

/-- Where the way up from a type comes back to it before it meets a declaring type, it never meets
another one: what lies above is the type itself, or declares nothing and has it as its nearest. -/
theorem NearestAbove.eq_or_of_above (circle : NearestAbove key type type)
    (nearest : NearestAbove key current type) (h : current.Above other) :
    other = type ∨ other.unit.instanceMember? key = none ∧ NearestAbove key other type := by
  -- behind the type the way is the same one again, which is why the start of the way varies
  induction h with
  | parent parent_loads => exact nearest.eq_or_of_parent parent_loads
  | further parent_loads _ ih =>
    rcases nearest.eq_or_of_parent parent_loads with rfl | ⟨-, hmore⟩
    · exact ih circle
    · exact ih hmore

/-- The nearest declaring type above a type is that type itself exactly when it lies above itself and
nothing else above it declares the key. -/
theorem NearestAbove.eq_self_iff (nearest : NearestAbove key type top) :
    top = type ↔ type.Above type ∧
      ∀ other, type.Above other → (other.unit.instanceMember? key).isSome = true → other = type := by
  constructor
  · rintro rfl
    refine ⟨nearest.above, fun other habove hdeclares => ?_⟩
    rcases nearest.eq_or_of_above nearest habove with rfl | ⟨hsilent, -⟩
    · rfl
    · rw [hsilent] at hdeclares
      cases hdeclares
  · rintro ⟨-, honly⟩
    exact honly top nearest.above nearest.declares

/-! ## Members that are said to shadow -/

/-- A member that is placed as a shadowing one lies on the type itself, and what it is said to shadow
is what a walk from the parent finds. -/
theorem exists_shadowed_of_originOf {hit : Hit} {name : QualifiedName}
    (h : target.originOf hit maxHops = .ok (.overridden name)) :
    hit.depth = 0 ∧ ∃ next shadowed, target.parent = .ok (some next) ∧
      next.findInChain hit.member.key maxHops = .ok (some shadowed) ∧
      shadowed.owner.name = name := by
  have hdepth : hit.depth = 0 := depth_eq_zero_of_isOverridden h rfl
  refine ⟨hdepth, ?_⟩
  -- where nothing is found above, nothing is said to be shadowed
  have hnothing : (if hit.member.kind = .override then
        Except.error (BindingError.notOverridden target.name hit.member.key.name)
      else Except.ok Origin.declared) ≠ Except.ok (.overridden name) := by
    split <;> simp
  rw [originOf, if_neg (by omega)] at h
  cases hparent : target.parent with
  | error error =>
    rw [hparent] at h
    cases h
  | ok parent =>
    rw [hparent] at h
    cases parent with
    | none => exact absurd h hnothing
    | some next =>
      obtain ⟨found, hfound, h⟩ := Except.bind_eq_ok_iff.1 h
      cases found with
      | none => exact absurd h hnothing
      | some shadowed =>
        cases h
        exact ⟨next, shadowed, rfl, hfound, rfl⟩

end LoadedType

/-- What a bound member is said to shadow. It lies on the type asked for, and the name that is
reported is that of the nearest type above it that declares an instance member under the key. That
type is the owner itself exactly when the owner lies above itself and is the only type above itself
that declares the key; on a way up that never comes back it is another one. -/
theorem Resolver.shadowed_of_resolve {resolver : Resolver} {request : Request} {symbol : Symbol}
    {name : QualifiedName} (h : resolver.resolve request = .ok symbol)
    (horigin : symbol.origin = .overridden name) :
    resolver.space.load request.type = .ok symbol.owner ∧
      ∃ shadowed, LoadedType.NearestAbove request.member symbol.owner shadowed ∧
        shadowed.name = name ∧
        (shadowed = symbol.owner ↔ symbol.owner.Above symbol.owner ∧
          ∀ other, symbol.owner.Above other →
            (other.unit.instanceMember? request.member).isSome = true → other = symbol.owner) := by
  obtain ⟨target, hload, hbind, hsymbol⟩ := exists_target_of_resolve h
  rcases found_or_default_or_declared_of_bind hbind with
    ⟨hit, hfound, hplaced, howner, hmember⟩ | ⟨-, hdefault⟩ | ⟨-, hdeclared⟩
  · rw [horigin] at hplaced
    obtain ⟨hdepth, next, shadowed, hparent, hshadowed, rfl⟩ :=
      LoadedType.exists_shadowed_of_originOf hplaced
    obtain rfl : symbol.owner = target := by
      rcases (LoadedType.place_of_findFrom hfound).2 with ⟨hself, -⟩ | ⟨-, hpos, -⟩
      · exact howner.symm.trans hself
      · exact absurd hdepth (Nat.ne_of_gt hpos)
    have hkey : hit.member.key = request.member := by
      rw [hmember]
      exact (CodeUnit.mem_and_key_of_member? hsymbol.member_declared).2
    rw [hkey] at hshadowed
    have hnearest := LoadedType.nearestAbove_of_findFrom hparent hshadowed
    exact ⟨hload, shadowed.owner, hnearest, rfl, hnearest.eq_self_iff⟩
  · cases horigin.symm.trans hdefault
  · cases horigin.symm.trans hdeclared

/-- The class with something to shadow shadows the class above it, and not itself. -/
theorem Resolver.shadowed_heir :
    ∃ shadowed, LoadedType.NearestAbove Stray.key Stray.shadowing.owner shadowed ∧
      shadowed.name = ⟨"Root"⟩ ∧ shadowed ≠ Stray.shadowing.owner := by
  obtain ⟨-, shadowed, hnearest, hname, -⟩ := shadowed_of_resolve Stray.resolve_heir rfl
  refine ⟨shadowed, hnearest, hname, ?_⟩
  rintro rfl
  revert hname
  decide

/-! ## A circle of two classes -/

namespace Ring

/-- The member that one of the two classes declares. -/
def key : MemberKey := ⟨"run", ⟨[]⟩⟩

/-- The class that declares it, as an overriding member. -/
def head : CodeUnit :=
  Fork.unit "Head" .concreteClass (some ⟨"Tail"⟩) [] [⟨key, .override, some (.transfer "H")⟩]
    (by decide)

/-- The class in between, which is the parent of the first one and has it as its own parent. -/
def tail : CodeUnit := Fork.unit "Tail" .concreteClass (some ⟨"Head"⟩) [] [] (by decide)

/-- The namespace of both. -/
def space : Namespace := .root ⟨0, "ring", .isolated, ⟨[head, tail], by decide⟩, 32⟩

/-- The answer of the class that declares the member. -/
def symbol (dispatch : Dispatch) : Symbol :=
  ⟨⟨head, space⟩, dispatch, ⟨key, .override, some (.transfer "H")⟩, .transfer "H",
    .overridden ⟨"Head"⟩, some ⟨⟨head, space⟩, none⟩⟩

theorem parent_head : LoadedType.parent ⟨head, space⟩ = .ok (some ⟨tail, space⟩) := rfl

theorem parent_tail : LoadedType.parent ⟨tail, space⟩ = .ok (some ⟨head, space⟩) := rfl

/-- Only the two classes lie above either of them. -/
theorem eq_head_or_tail_of_above {current other : LoadedType}
    (h : current = ⟨head, space⟩ ∨ current = ⟨tail, space⟩) (above : current.Above other) :
    other = ⟨head, space⟩ ∨ other = ⟨tail, space⟩ := by
  have hnext : ∀ {type next : LoadedType}, type = ⟨head, space⟩ ∨ type = ⟨tail, space⟩ →
      type.parent = .ok (some next) → next = ⟨head, space⟩ ∨ next = ⟨tail, space⟩ := by
    rintro type next (rfl | rfl) hparent
    · cases parent_head.symm.trans hparent
      exact Or.inr rfl
    · cases parent_tail.symm.trans hparent
      exact Or.inl rfl
  induction above with
  | parent parent_loads => exact hnext h parent_loads
  | further parent_loads _ ih => exact ih (hnext h parent_loads)

/-- The class that declares the member lies above itself, and no other class above it declares one. -/
theorem only_head : LoadedType.Above ⟨head, space⟩ ⟨head, space⟩ ∧
    ∀ other, LoadedType.Above ⟨head, space⟩ other →
      (other.unit.instanceMember? key).isSome = true → other = ⟨head, space⟩ := by
  refine ⟨.further parent_head (.parent parent_tail), fun other above declares => ?_⟩
  rcases eq_head_or_tail_of_above (Or.inl rfl) above with rfl | rfl
  · rfl
  · cases declares

end Ring

/-- The overriding member of a circle has nothing to shadow but itself, and that is what it is said to
shadow, in a plain call and in one that asks for a shadowing member. -/
theorem Resolver.shadowed_ring :
    (Resolver.ofNamespace Ring.space).resolve ⟨⟨"Head"⟩, Ring.key, .overridden⟩ =
        .ok (Ring.symbol .overridden) ∧
      (Resolver.ofNamespace Ring.space).resolve ⟨⟨"Head"⟩, Ring.key, .virtual⟩ =
        .ok (Ring.symbol .virtual) ∧
      (Ring.symbol .overridden).member.kind = .override ∧
      (Ring.symbol .overridden).origin = .overridden (Ring.symbol .overridden).owner.name ∧
      LoadedType.NearestAbove Ring.key (Ring.symbol .overridden).owner
        (Ring.symbol .overridden).owner ∧
      ∀ other, (Ring.symbol .overridden).owner.Above other →
        (other.unit.instanceMember? Ring.key).isSome = true →
          other = (Ring.symbol .overridden).owner := by
  refine ⟨rfl, rfl, rfl, rfl, ?_, Ring.only_head.2⟩
  exact .further Ring.parent_head rfl (.parent Ring.parent_tail rfl)

end Linkage
