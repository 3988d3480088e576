import Linkage.Proofs.Correspondence
import Linkage.Proofs.NamespaceClosure

/-!
# Raised bounds

Layers bound the way of a request, and a resolver bounds the walks up a type's parents. A larger
bound can only help. The one failure that it can mend is that a request or a walk was given up
(`LoadError.GivenUp`). This failure is never passed over on the way and never turned into another
one, so every other outcome stays as it is, of loads (`Namespace.Raised.load`) as of requests
(`Namespace.unchanged_of_raised`).

The types that two namespaces load are related by their places. A type has a place in a row of
layers, and the type that takes its place in the raised row is the same unit of the raised namespace
(`LoadedType.SamePlace`). Such types correspond, so what is bound on them does. `Ladder` is a row
whose bounds decide whether a member is found.
-/

namespace Linkage

/-- What becomes of a request or a walk that went too far: it was given up, or it never ends. -/
inductive LoadError.GivenUp : LoadError → Prop where
  | tooManyHops (name : QualifiedName) (limit : Nat) : GivenUp (.tooManyHops name limit)
  | endless (name : QualifiedName) : GivenUp (.endless name)

theorem LoadError.givenUp_spent (name : QualifiedName) (limit : Nat) :
    GivenUp (spent name limit) := by
  rw [spent]
  split
  · exact .tooManyHops name limit
  · exact .endless name

/-- The same layer with a bound that is as large or larger. -/
structure Layer.Raised (layer layer' : Layer) : Prop where
  number_eq : layer'.number = layer.number
  label_eq : layer'.label = layer.label
  policy_eq : layer'.policy = layer.policy
  units_eq : layer'.units = layer.units
  maxHops_le : layer.maxHops ≤ layer'.maxHops

/-- The same row of layers with bounds that are as large or larger. -/
inductive Namespace.Raised : Namespace → Namespace → Prop where
  | root {layer layer' : Layer} (entrance : layer.Raised layer') :
      Raised (.root layer) (.root layer')
  | child {layer layer' : Layer} {parent parent' : Namespace} (entrance : layer.Raised layer')
      (above : parent.Raised parent') : Raised (.child layer parent) (.child layer' parent')

/-- The same unit, defined by the same namespace with bounds that are as large or larger. -/
structure LoadedType.Raised (type type' : LoadedType) : Prop where
  unit_eq : type'.unit = type.unit
  home : type.home.Raised type'.home

/-- Two types that have the same place in a row of layers and in the raised row. -/
structure LoadedType.SamePlace (space space' : Namespace) (type type' : LoadedType) : Prop where
  raised : type.Raised type'
  visible : type.home ∈ space.visible
  visible' : type'.home ∈ space'.visible

/-- The same resolver with bounds that are as large or larger, on namespaces with such bounds. -/
structure Resolver.Raised (resolver resolver' : Resolver) : Prop where
  space : resolver.space.Raised resolver'.space
  caller : resolver.caller.Raised resolver'.caller
  handles_eq : resolver'.interfaceStaticHandles = resolver.interfaceStaticHandles
  maxHops_le : resolver.maxHops ≤ resolver'.maxHops

/-! ## Loading -/

/-- A request that has not come too far for a layer has not for the raised one. -/
theorem Layer.Raised.near {layer layer' : Layer} (h : layer.Raised layer') {hops hops' : Nat}
    (fewer : hops' ≤ hops) (near : ¬ layer.maxHops < hops) : ¬ layer'.maxHops < hops' := by
  have := h.maxHops_le
  omega

namespace Namespace

variable {space space' : Namespace}

theorem Raised.refl (space : Namespace) : space.Raised space := by
  induction space with
  | root layer => exact .root ⟨rfl, rfl, rfl, rfl, Nat.le_refl _⟩
  | child layer parent ih => exact .child ⟨rfl, rfl, rfl, rfl, Nat.le_refl _⟩ ih

theorem Raised.entrance (h : space.Raised space') : space.layer.Raised space'.layer := by
  cases h with
  | root entrance => exact entrance
  | child entrance => exact entrance

theorem Raised.length_layers_eq (h : space.Raised space') :
    space'.layers.length = space.layers.length := by
  induction h with
  | root => rfl
  | child _ _ ih => rw [layers, layers, List.length_cons, List.length_cons, ih]

theorem Raised.own (h : space.Raised space') (name : QualifiedName) :
    Except.Rel Eq LoadedType.Raised (space.own name) (space'.own name) := by
  rw [Namespace.own, Namespace.own, own?, own?, h.entrance.units_eq, label, label,
    h.entrance.label_eq]
  cases space.layer.units.lookup? name with
  | some unit => exact .ok ⟨rfl, h⟩
  | none => exact .error rfl

/-- A request that comes to a raised namespace after as many hops or fewer is answered alike, unless
it was given up before. -/
theorem Raised.loadAfter (h : space.Raised space') (name : QualifiedName) {hops hops' : Nat}
    (fewer : hops' ≤ hops) :
    Except.RelUnless LoadError.GivenUp Eq LoadedType.Raised (space.loadAfter name hops)
      (space'.loadAfter name hops') := by
  -- the parent is asked one hop further on from both, so fewer hops stay fewer
  induction h generalizing hops hops' with
  | @root layer layer' entrance =>
    rw [Namespace.loadAfter, Namespace.loadAfter]
    by_cases beyond : layer.maxHops < hops
    · rw [if_pos beyond]
      exact .lost (.tooManyHops _ _)
    · rw [if_neg beyond, if_neg (entrance.near fewer beyond)]
      exact .rel ((Raised.root entrance).own name)
  | @child layer layer' parent parent' entrance above ih =>
    have habove := ih (Nat.succ_le_succ fewer)
    have hown := (Raised.child entrance above).own name
    rw [Namespace.loadAfter, Namespace.loadAfter]
    by_cases beyond : layer.maxHops < hops
    · rw [if_pos beyond]
      exact .lost (.tooManyHops _ _)
    · rw [if_neg beyond, if_neg (entrance.near fewer beyond), entrance.policy_eq]
      cases layer.policy with
      | isolated => exact .rel hown
      | parentFirst =>
        -- only a name that was not found above is looked for again, so a loss above stays one
        rcases habove.cases with
          ⟨error, hload, hlost⟩ | ⟨error, _, hload, hload', rfl⟩ | ⟨type, type', hload, hload', hrel⟩
        · rw [hload]
          cases hlost with
          | tooManyHops name limit => exact .lost (.tooManyHops name limit)
          | endless name => exact .lost (.endless name)
        · rw [hload, hload']
          cases error with
          | notFound missing asker => exact .rel hown
          | tooManyHops | endless => exact .error rfl
        · rw [hload, hload']
          exact .ok hrel
      | childFirst =>
        dsimp only
        rw [own?, own?, Namespace.layer, Namespace.layer, entrance.units_eq]
        cases layer.units.lookup? name with
        | some unit => exact .ok ⟨rfl, .child entrance above⟩
        | none => exact habove

/-- A raised namespace gives the same answer, unless the request was given up before. -/
theorem Raised.load (h : space.Raised space') (name : QualifiedName) :
    Except.RelUnless LoadError.GivenUp Eq (LoadedType.SamePlace space space') (space.load name)
      (space'.load name) := by
  rw [Namespace.load, Namespace.load, label, label, h.entrance.label_eq]
  rcases (h.loadAfter name (Nat.le_refl 0)).cases with
    ⟨error, hload, hlost⟩ | ⟨error, _, hload, hload', rfl⟩ | ⟨type, type', hload, hload', hraised⟩
  · rw [hload]
    cases hlost with
    | tooManyHops name limit => exact .lost (.tooManyHops name limit)
    | endless name => exact .lost (.endless name)
  · rw [hload, hload']
    cases error with
    | notFound missing asker => exact .error rfl
    | tooManyHops | endless => exact .error rfl
  · rw [hload, hload']
    exact .ok ⟨hraised, (LoadedType.visible_of_loadAfter hload).1,
      (LoadedType.visible_of_loadAfter hload').1⟩

end Namespace

/-! ## Places -/

namespace LoadedType.SamePlace

variable {space space' : Namespace} {type type' : LoadedType}

/-- In one row of layers a place is taken by one type. -/
theorem eq (h : SamePlace space space type type') : type' = type := by
  obtain ⟨⟨hunit, hraised⟩, hvisible, hvisible'⟩ := h
  have hhome := Namespace.eq_of_length_layers_eq hvisible' hvisible hraised.length_layers_eq
  cases type
  cases type'
  rw [LoadedType.mk.injEq]
  exact ⟨hunit, hhome⟩

/-- What the home of a type loads has the place of what the raised home loads. -/
theorem load (h : SamePlace space space' type type') (name : QualifiedName) :
    Except.RelUnless LoadError.GivenUp Eq (SamePlace space space') (type.home.load name)
      (type'.home.load name) := by
  refine (h.raised.home.load name).imp fun found found' hfound => ?_
  exact ⟨hfound.raised, (Namespace.visible_suffix h.visible).subset hfound.visible,
    (Namespace.visible_suffix h.visible').subset hfound.visible'⟩

/-- Types that have the same places correspond. -/
theorem correspondence (space space' : Namespace) :
    Correspondence LoadError.GivenUp Eq (SamePlace space space') where
  alike_refl := fun _ => rfl
  unit_eq := fun h => h.raised.unit_eq
  load := load

end LoadedType.SamePlace

/-! ## Binding -/

namespace Resolver

variable {resolver resolver' : Resolver}

theorem Raised.corresponds (h : resolver.Raised resolver') :
    resolver.Corresponds LoadError.GivenUp Eq
      (LoadedType.SamePlace resolver.space resolver'.space)
      (LoadedType.SamePlace resolver.caller resolver'.caller)
      (resolver'.maxHops - resolver.maxHops) resolver' where
  same_types := LoadedType.SamePlace.correspondence _ _
  held_types := LoadedType.SamePlace.correspondence _ _
  granted := Or.inr LoadError.givenUp_spent
  maxHops := (Nat.add_sub_cancel' h.maxHops_le).symm
  handles := h.handles_eq
  space := h.space.load
  caller := h.caller.load

theorem Raised.ofNamespace {space space' : Namespace} (h : space.Raised space') :
    (ofNamespace space).Raised (ofNamespace space') :=
  ⟨h, h, rfl, h.entrance.maxHops_le⟩

end Resolver

theorem BindingError.Alike.eq {error error' : BindingError} (h : error.Alike Eq error') :
    error' = error := by
  cases h with
  | same => rfl
  | load h => rw [h]

/-- Raising bounds is conservative. A raised namespace loads every type that the namespace loads,
from the same place, and does not find what the namespace does not find. A raised resolver, and a
direct call on a raised namespace, comes to the same symbol, whose types have the same places, and to
the same failure unless something was given up. -/
theorem Namespace.unchanged_of_raised :
    (∀ space space' : Namespace, space.Raised space' →
      (∀ name type, space.load name = .ok type →
        ∃ type', space'.load name = .ok type' ∧ type.SamePlace space space' type') ∧
      (∀ name asked asker, space.load name = .error (.notFound asked asker) →
        space'.load name = .error (.notFound asked asker)) ∧
      (∀ type key,
        (∀ symbol, space.resolve type key = .ok symbol →
          ∃ symbol', space'.resolve type key = .ok symbol' ∧
            symbol.Alike (LoadedType.SamePlace space space') (LoadedType.SamePlace space space')
              symbol') ∧
        (∀ error, space.resolve type key = .error error →
          ¬ error.OfLoad LoadError.GivenUp → space'.resolve type key = .error error))) ∧
    (∀ resolver resolver' : Resolver, resolver.Raised resolver' → ∀ request,
      (∀ symbol, resolver.resolve request = .ok symbol →
        ∃ symbol', resolver'.resolve request = .ok symbol' ∧
          symbol.Alike (LoadedType.SamePlace resolver.space resolver'.space)
            (LoadedType.SamePlace resolver.caller resolver'.caller) symbol') ∧
      (∀ error, resolver.resolve request = .error error →
        ¬ error.OfLoad LoadError.GivenUp → resolver'.resolve request = .error error)) := by
  constructor
  · intro space space' raised
    refine ⟨?_, ?_, ?_⟩
    · intro name
      exact ((raised.load name).unchanged fun _ _ h => h.symm).1
    · intro name asked asker hload
      refine ((raised.load name).unchanged fun _ _ h => h.symm).2 _ hload ?_
      rintro ⟨⟩
    · intro type key
      exact (resolve_relUnless (Resolver.Raised.ofNamespace raised).corresponds type key).unchanged
        fun _ _ => BindingError.Alike.eq
  · intro resolver resolver' raised request
    exact (raised.corresponds.resolve request).unchanged fun _ _ => BindingError.Alike.eq

/-! ## A ladder of two rungs -/

namespace Ladder

/-- A class that leaves its answer to the one above, with a bound for either layer. -/
def row (low high : Nat) : Namespace :=
  .child ⟨0, "foot", .parentFirst, ⟨[Annex.leaf], by decide⟩, low⟩
    (.root ⟨1, "head", .isolated, ⟨[Annex.base "head"], by decide⟩, high⟩)

theorem raised {low low' high high' : Nat} (hlow : low ≤ low') (hhigh : high ≤ high') :
    (row low high).Raised (row low' high') :=
  .child ⟨rfl, rfl, rfl, rfl, hlow⟩ (.root ⟨rfl, rfl, rfl, rfl, hhigh⟩)

/-- The answer that comes from the head. -/
def symbol (low high : Nat) : Symbol where
  owner := ⟨Annex.base "head", .root ⟨1, "head", .isolated, ⟨[Annex.base "head"], by decide⟩, high⟩⟩
  dispatch := .virtual
  member := ⟨Annex.key, .virtual, some (.transfer "head")⟩
  body := .transfer "head"
  origin := .inherited ⟨"Base"⟩
  receiver := some ⟨⟨Annex.leaf, row low high⟩, none⟩

/-- With no hops at the head the class at the foot is not even looked for, and with no hops at the
foot its parent is not asked for the member. -/
example : (row 1 0).load ⟨"Leaf"⟩ = .error (.tooManyHops ⟨"Leaf"⟩ 0) ∧
    (row 0 1).resolve ⟨"Leaf"⟩ Annex.key = .error (.load (.tooManyHops ⟨"Leaf"⟩ 0)) ∧
    (row 1 1).resolve ⟨"Leaf"⟩ Annex.key = .ok (symbol 1 1) := ⟨rfl, rfl, rfl⟩

end Ladder

/-- The ladder with the least bounds under which the member is found, and with larger ones. -/
theorem Namespace.unchanged_ladder :
    (∃ type', (Ladder.row 4 2).load ⟨"Base"⟩ = .ok type' ∧
      (Ladder.symbol 1 1).owner.SamePlace (Ladder.row 1 1) (Ladder.row 4 2) type') ∧
    (∃ symbol', (Ladder.row 4 2).resolve ⟨"Leaf"⟩ Annex.key = .ok symbol' ∧
      (Ladder.symbol 1 1).Alike (LoadedType.SamePlace (Ladder.row 1 1) (Ladder.row 4 2))
        (LoadedType.SamePlace (Ladder.row 1 1) (Ladder.row 4 2)) symbol') ∧
    (Resolver.ofNamespace (Ladder.row 4 2)).resolve ⟨⟨"Base"⟩, Annex.key, .inherited⟩ =
      .error (.notInherited ⟨"Base"⟩ "run") := by
  have raised : (Ladder.row 1 1).Raised (Ladder.row 4 2) := Ladder.raised (by decide) (by decide)
  obtain ⟨namespaces, resolvers⟩ := unchanged_of_raised
  obtain ⟨loads, -, calls⟩ := namespaces _ _ raised
  refine ⟨loads _ _ rfl, (calls _ _).1 _ rfl, ?_⟩
  refine (resolvers _ _ (.ofNamespace raised) _).2 _ rfl ?_
  rintro ⟨⟩

end Linkage
