import Linkage.Proofs.InstanceDispatch
import Linkage.Proofs.References

/-!
# Bound symbols

Whatever binding answers comes out of the table of a type that is reached from the target by
following references: both walks only ever hold such types (`reachedFrom_of_findFrom`,
`reachedFrom_of_collectFrom`), and every way of calling takes member and body from the table of the
type that supplies them. `Resolver.exists_target_of_resolve` states it for whole requests, and
`Resolver.sound_of_resolve` reads off that nothing invisible from the resolver's namespace answers.
-/

namespace Linkage

/-- A hit on a member that its owner declares under a key, where the owner is reached from a
type. -/
structure Hit.ReachedFrom (hit : Hit) (start : LoadedType) (key : MemberKey) : Prop where
  owner_reached : start.Reaches hit.owner
  member_declared : hit.owner.unit.member? key = some hit.member

/-- A hit that is reached, together with the body of its member. -/
structure InstanceBinding.ReachedFrom (binding : InstanceBinding) (start : LoadedType)
    (key : MemberKey) : Prop where
  hit_reached : binding.hit.ReachedFrom start key
  body_declared : binding.hit.member.body = some binding.body

/-- A symbol made of what its owner declares under a key, where the owner is reached from a type. -/
structure Symbol.ReachedFrom (symbol : Symbol) (start : LoadedType) (key : MemberKey) : Prop where
  owner_reached : start.Reaches symbol.owner
  member_declared : symbol.owner.unit.member? key = some symbol.member
  body_declared : symbol.member.body = some symbol.body

/-- A symbol made of what its owner declares under a key, where the owner is visible from a
namespace. -/
structure Symbol.Sound (symbol : Symbol) (key : MemberKey) (space : Namespace) : Prop where
  owner_within : symbol.owner.Within space
  member_declared : symbol.owner.unit.member? key = some symbol.member
  body_declared : symbol.member.body = some symbol.body

/-- What is reached from a type within a namespace is visible there. -/
theorem Symbol.ReachedFrom.sound {symbol : Symbol} {start : LoadedType} {key : MemberKey}
    {space : Namespace} (h : symbol.ReachedFrom start key) (inside : start.Within space) :
    symbol.Sound key space :=
  ⟨h.owner_reached.within inside, h.member_declared, h.body_declared⟩

namespace LoadedType

variable {origin start current target : LoadedType} {key : MemberKey}
  {limit left depth maxHops : Nat}

/-! ## Walks follow references -/

/-- What lies above a type that is reached is reached. -/
theorem Reaches.above {top : LoadedType} (h : origin.Reaches current) (above : current.Above top) :
    origin.Reaches top := by
  induction above with
  | parent parent_loads => exact h.parent parent_loads
  | further parent_loads _ ih => exact ih (h.parent parent_loads)

/-- A walk that starts at a type that is reached finds a member of one. -/
theorem reachedFrom_of_findFrom {hit : Hit} (reached : origin.Reaches current)
    (h : findFrom start limit key left depth current = .ok (some hit)) :
    hit.ReachedFrom origin key := by
  obtain ⟨hmember, hplace⟩ := place_of_findFrom h
  refine ⟨?_, (CodeUnit.instanceMember?_eq_some_iff.1 hmember).1⟩
  rcases hplace with ⟨rfl, -⟩ | ⟨habove, -⟩
  · exact reached
  · exact reached.above habove

/-- A walk that starts at a type that is reached collects members of such types. -/
theorem reachedFrom_of_collectFrom {found hits : List Hit} (reached : origin.Reaches current)
    (earlier : ∀ hit ∈ found, hit.ReachedFrom origin key)
    (h : collectFrom start limit key left depth found current = .ok hits) :
    ∀ hit ∈ hits, hit.ReachedFrom origin key := by
  intro hit hhit
  rcases mem_of_collectFrom h hhit with hfound | ⟨type, capabilities, place, htype, hcaps, hoffer⟩
  · exact earlier hit hfound
  · obtain ⟨hcapability, hmember⟩ := mem_supplied hoffer
    have htype : origin.Reaches type := by
      rcases htype with rfl | habove
      · exact reached
      · exact reached.above habove
    exact ⟨htype.capability hcaps hcapability, (CodeUnit.memberOfKind?_eq_some_iff.1 hmember).1⟩

/-! ## Bindings -/

theorem bodyOf_eq_ok_iff {owner : LoadedType} {member : Member} {body : Body} :
    owner.bodyOf member = .ok body ↔ member.body = some body := by
  rw [bodyOf]
  cases member.body <;> simp

/-- The only default that is chosen is one of those collected, with its own body. -/
theorem collected_of_chooseDefault {binding : InstanceBinding}
    (h : target.chooseDefault key maxHops = .ok (some binding)) :
    ∃ hits, target.collectDefaults key maxHops = .ok hits ∧ binding.hit ∈ hits ∧
      binding.hit.member.body = some binding.body := by
  obtain ⟨hits, hhits, h⟩ := Except.bind_eq_ok_iff.1 h
  split at h
  · cases h
  · next hit =>
    obtain ⟨body, hbody, h⟩ := Except.bind_eq_ok_iff.1 h
    cases h
    exact ⟨[hit], hhits, List.mem_cons_self, bodyOf_eq_ok_iff.1 hbody⟩
  · cases h

/-- What is bound on an instance was found on the way up, where `originOf` has placed it, or was
chosen among the defaults. -/
theorem found_or_chosen_of_bindInstance {withDefaults : Bool} {binding : InstanceBinding}
    (h : target.bindInstance key withDefaults maxHops = .ok binding) :
    (target.findInChain key maxHops = .ok (some binding.hit) ∧
      binding.hit.member.body = some binding.body ∧
      target.originOf binding.hit maxHops = .ok binding.origin) ∨
      target.chooseDefault key maxHops = .ok (some binding) := by
  obtain ⟨found, hfound, h⟩ := Except.bind_eq_ok_iff.1 h
  split at h
  · next hit body hbody =>
    obtain ⟨origin, horigin, h⟩ := Except.bind_eq_ok_iff.1 h
    cases h
    obtain ⟨other, rfl, hother⟩ := Option.bind_eq_some_iff.1 hbody
    obtain ⟨own, hown, hpair⟩ := Option.map_eq_some_iff.1 hother
    cases hpair
    exact Or.inl ⟨hfound, hown, horigin⟩
  · dsimp only at h
    split at h
    · obtain ⟨chosen, hchosen, h⟩ := Except.bind_eq_ok_iff.1 h
      split at h
      · cases h
        exact Or.inr hchosen
      · cases h
    · cases h

/-- A member bound on an instance is reached from the type of the instance. -/
theorem reachedFrom_of_bindInstance {withDefaults : Bool} {binding : InstanceBinding}
    (h : target.bindInstance key withDefaults maxHops = .ok binding) :
    binding.ReachedFrom target key := by
  rcases found_or_chosen_of_bindInstance h with ⟨hfound, hbody, -⟩ | hchosen
  · exact ⟨reachedFrom_of_findFrom .refl hfound, hbody⟩
  · obtain ⟨hits, hhits, hmem, hbody⟩ := collected_of_chooseDefault hchosen
    exact ⟨reachedFrom_of_collectFrom .refl (by simp) hhits _ hmem, hbody⟩

/-- A member of the table of a type makes a symbol when it has a body. -/
theorem reachedFrom_of_typeSymbol {dispatch : Dispatch} {member : Member} {symbol : Symbol}
    (hmember : target.unit.member? key = some member)
    (h : target.typeSymbol dispatch member = .ok symbol) : symbol.ReachedFrom target key := by
  obtain ⟨body, hbody, h⟩ := Except.bind_eq_ok_iff.1 h
  cases h
  exact ⟨.refl, hmember, bodyOf_eq_ok_iff.1 hbody⟩

end LoadedType

namespace Resolver

variable {resolver : Resolver} {target : LoadedType} {key : MemberKey} {symbol : Symbol}
  {dispatch : Dispatch} {request : Request}

/-- Whatever a call on an instance demands of the place of the member, the symbol is that of the
binding. -/
theorem InstanceCall.reachedFrom {reference : Option LoadedType} {withDefaults : Bool}
    (call : resolver.InstanceCall key dispatch reference withDefaults)
    (h : resolver.bind target key dispatch = .ok symbol) : symbol.ReachedFrom target key := by
  rw [call.bind_eq] at h
  obtain ⟨binding, hbinding, h⟩ := Except.bind_eq_ok_iff.1 h
  have hreached := LoadedType.reachedFrom_of_bindInstance hbinding
  rw [symbol_of_conclude h]
  exact ⟨hreached.hit_reached.owner_reached, hreached.hit_reached.member_declared,
    hreached.body_declared⟩

/-- Every way of calling answers with a member, and its body, from the table of a type that is
reached from the target. -/
theorem reachedFrom_of_bind (h : resolver.bind target key dispatch = .ok symbol) :
    symbol.ReachedFrom target key := by
  by_cases hreceiver : dispatch.needsReceiver = true
  · obtain ⟨reference, withDefaults, call⟩ := exists_instanceCall hreceiver h
    exact call.reachedFrom h
  · -- the calls on the type itself take the member from its own table
    cases dispatch with
    | static =>
      rw [bind] at h
      split at h
      · next member hmember =>
        exact LoadedType.reachedFrom_of_typeSymbol
          (CodeUnit.memberOfKind?_eq_some_iff.1 hmember).1 h
      · cases h
    | interfaceStatic =>
      rw [bind] at h
      split at h
      · split at h
        · next member hmember =>
          split at h
          · exact LoadedType.reachedFrom_of_typeSymbol
              (CodeUnit.memberOfKind?_eq_some_iff.1 hmember).1 h
          · cases h
        · cases h
      · cases h
    | _ => exact absurd rfl hreceiver

/-- The symbol that a request comes to is made of what a type reached from the type asked for
declares under the key asked for. -/
theorem exists_target_of_resolve (h : resolver.resolve request = .ok symbol) :
    ∃ target, resolver.space.load request.type = .ok target ∧
      resolver.bind target request.member request.dispatch = .ok symbol ∧
      symbol.ReachedFrom target request.member := by
  obtain ⟨target, htarget, h⟩ := Except.bind_eq_ok_iff.1 h
  exact ⟨target, Except.mapError_eq_ok_iff.1 htarget, h, reachedFrom_of_bind h⟩

/-- The owner of a symbol that a request comes to is visible from the resolver's namespace. -/
theorem sound_of_resolve (h : resolver.resolve request = .ok symbol) :
    symbol.Sound request.member resolver.space := by
  obtain ⟨target, hload, -, hreached⟩ := exists_target_of_resolve h
  exact hreached.sound (LoadedType.within_of_load hload).1

end Resolver

end Linkage
