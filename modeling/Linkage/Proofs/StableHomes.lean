import Linkage.Proofs.RaisedBounds

/-!
# Stable homes

A type remembers the namespace that defines it. Asked for the type's name, that namespace comes to
the same type again (`LoadedType.Settled`), although it is not asked as it was before: the request
starts there instead of arriving after some hops. An answer of the home after some hops is an answer
after none (`LoadedType.load_home_of_loadAfter`), since fewer hops lose nothing.

Everything that references lead to is loaded in turn, so all of it is settled
(`Namespace.homes_stable`).
-/

namespace Linkage

/-- A type that its own home loads under its own name. -/
def LoadedType.Settled (type : LoadedType) : Prop :=
  type.home.load type.name = .ok type

variable {space : Namespace} {name : QualifiedName} {hops : Nat} {type : LoadedType}

namespace Namespace

theorem home_of_own (h : space.own name = .ok type) : type.home = space := by
  rw [own] at h
  split at h
  · next found hown =>
    cases h
    exact home_of_own? hown
  · cases h

/-- What a namespace loads is its own or is loaded by its parent, one hop further on. -/
theorem home_or_parent_of_loadAfter (h : space.loadAfter name hops = .ok type) :
    type.home = space ∨
      ∃ parent ∈ space.parent?, parent.loadAfter name (hops + 1) = .ok type := by
  cases space with
  | root layer =>
    rw [loadAfter] at h
    split at h
    · cases h
    · exact Or.inl (home_of_own h)
  | child layer parent =>
    rw [loadAfter] at h
    split at h
    · cases h
    · split at h
      · exact Or.inl (home_of_own h)
      · split at h
        · exact Or.inl (home_of_own h)
        · exact Or.inr ⟨parent, rfl, h⟩
      · split at h
        · next found hown =>
          cases h
          exact Or.inl (home_of_own? hown)
        · exact Or.inr ⟨parent, rfl, h⟩

/-- The home of a type is asked on the way to it, and what it answers is passed on. -/
theorem exists_home_loadAfter (h : space.loadAfter name hops = .ok type) :
    ∃ later, type.home.loadAfter name later = .ok type := by
  -- on the way up only the hops change, so they vary with the namespace
  induction space generalizing hops with
  | root layer =>
    rcases home_or_parent_of_loadAfter h with hhome | ⟨parent, hparent, -⟩
    · exact ⟨hops, hhome ▸ h⟩
    · cases hparent
  | child layer parent ih =>
    rcases home_or_parent_of_loadAfter h with hhome | ⟨_, hparent, habove⟩
    · exact ⟨hops, hhome ▸ h⟩
    · cases hparent
      exact ih habove

end Namespace

open Namespace

namespace LoadedType

/-- A type that is loaded in any way, after any number of hops, is loaded by its home at once. -/
theorem load_home_of_loadAfter (h : space.loadAfter name hops = .ok type) :
    type.home.load name = .ok type := by
  obtain ⟨later, hlater⟩ := exists_home_loadAfter h
  -- asked with no hops instead of `later`, the home comes to a type in the same place
  have hrel := (Raised.refl type.home).loadAfter name (Nat.zero_le later)
  rw [hlater] at hrel
  obtain ⟨found, hfound, hraised⟩ := hrel.exists_ok
  have hplace : SamePlace type.home type.home type found :=
    ⟨hraised, mem_visible _, (visible_of_loadAfter hfound).1⟩
  rw [hplace.eq] at hfound
  exact load_eq_ok_iff.2 hfound

theorem settled_of_load (h : space.load name = .ok type) : type.Settled := by
  rw [Settled, (within_of_load h).2]
  exact load_home_of_loadAfter (load_eq_ok_iff.1 h)

theorem settled_of_parent {above : LoadedType} (h : type.parent = .ok (some above)) :
    above.Settled := by
  obtain ⟨name, -, hload⟩ := exists_load_of_parent h
  exact settled_of_load hload

theorem settled_of_capabilities {listed : List LoadedType} (h : type.capabilities = .ok listed)
    {capability : LoadedType} (hmem : capability ∈ listed) : capability.Settled := by
  obtain ⟨name, -, hload⟩ := Except.exists_of_mem_mapM h hmem
  exact settled_of_load hload

/-- What is reached from a settled type is settled. -/
theorem Reaches.settled {start : LoadedType} (h : start.Reaches type) (hstart : start.Settled) :
    type.Settled :=
  h.invariant hstart fun _ _ _ _ hload => settled_of_load hload

end LoadedType

/-- The owner of the symbol that a request comes to is settled. -/
theorem Resolver.settled_of_resolve {resolver : Resolver} {request : Request} {symbol : Symbol}
    (h : resolver.resolve request = .ok symbol) : symbol.owner.Settled := by
  obtain ⟨target, hload, -, hsymbol⟩ := exists_target_of_resolve h
  exact hsymbol.owner_reached.settled (LoadedType.settled_of_load hload)

/-- Homes are stable. Whatever a namespace loads, the home of the type loads it again under the name
that was asked for. The parents and the capabilities of types are loaded again by their own homes,
and so is the owner of the symbol that a request or a direct call comes to. -/
theorem Namespace.homes_stable :
    (∀ (space : Namespace) name type, space.load name = .ok type →
      type.home.load name = .ok type) ∧
    (∀ type above : LoadedType, type.parent = .ok (some above) → above.Settled) ∧
    (∀ (type : LoadedType) listed, type.capabilities = .ok listed →
      ∀ capability ∈ listed, capability.Settled) ∧
    (∀ (resolver : Resolver) request symbol, resolver.resolve request = .ok symbol →
      symbol.owner.Settled) ∧
    (∀ (space : Namespace) type key symbol, space.resolve type key = .ok symbol →
      symbol.owner.Settled) := by
  refine ⟨?_, ?_, ?_, ?_, ?_⟩
  · intro space name type hload
    exact LoadedType.load_home_of_loadAfter (load_eq_ok_iff.1 hload)
  · intro type above hparent
    exact LoadedType.settled_of_parent hparent
  · intro type listed hlisted capability hmem
    exact LoadedType.settled_of_capabilities hlisted hmem
  · intro resolver request symbol hresolve
    exact Resolver.settled_of_resolve hresolve
  · intro space type key symbol hresolve
    obtain ⟨dispatch, hdispatch⟩ := exists_dispatch_of_resolve hresolve
    exact Resolver.settled_of_resolve hdispatch

/-! ## A ladder behind a gate -/

/-- The ladder behind a layer without units. The class at the foot is found after the head has been
asked, which just allows the hops from the gate. -/
def Ladder.gated : Namespace :=
  .child ⟨2, "gate", .childFirst, .empty, 0⟩ (row 1 2)

/-- The foot of the ladder loads its class again, and the head the class that owns the member. -/
theorem Namespace.homes_stable_gated :
    (Ladder.row 1 2).load ⟨"Leaf"⟩ = .ok ⟨Annex.leaf, Ladder.row 1 2⟩ ∧
      (Ladder.symbol 1 2).owner.Settled := by
  obtain ⟨loads, -, -, owners, -⟩ := homes_stable
  refine ⟨loads Ladder.gated ⟨"Leaf"⟩ ⟨Annex.leaf, Ladder.row 1 2⟩ rfl, ?_⟩
  exact owners ⟨Ladder.gated, Ladder.gated, false, 1⟩ ⟨⟨"Leaf"⟩, Annex.key, .virtual⟩ _ rfl

end Linkage
