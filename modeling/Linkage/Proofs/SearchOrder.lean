import Linkage.Namespace.Load
import Linkage.Proofs.Except

/-!
# Search orders

A load walks from layer to layer, and every layer decides when its own units are looked at and how
far a request may have come. Here the walk is compared with a search that is laid out beforehand:
`Namespace.visible` lists the namespaces a request can reach, `Namespace.order` lists them in the
order in which they answer, and `Namespace.search` looks at these lists only.

As long as no visible layer finds that the request has come too far, the first namespace in the
order that declares the name answers (`loadAfter_of_reachable`). The first layer that does find so
ends the walk, and only the child-first layers below it have been asked by then
(`loadAfter_of_overrun`). `load_eq_search` puts the two together.

Whatever a load answers is declared by a visible namespace (`LoadedType.Within`), and so is what
the home of an answer loads.
-/

namespace Linkage

namespace Namespace

/-- The namespaces a request can reach, from the entrance up. An isolated layer ends the row. -/
def visible : Namespace → List Namespace
  | root layer => [root layer]
  | child layer parent =>
    child layer parent :: if layer.policy = .isolated then [] else parent.visible

/-- The namespaces a request can reach, in the order in which they answer. -/
def order : Namespace → List Namespace
  | root layer => [root layer]
  | child layer parent => match layer.policy with
    | .isolated => [child layer parent]
    | .childFirst => child layer parent :: parent.order
    | .parentFirst => parent.order ++ [child layer parent]

/-- The first visible namespace that a request reaches after more hops than it allows, with that
number of hops; the entrance is reached after `hops` of them. -/
def overrun? (space : Namespace) (hops : Nat) : Option (Namespace × Nat) :=
  (space.visible.zipIdx hops).find? fun asked => asked.1.layer.maxHops < asked.2

/-- The type a name denotes in the first of several namespaces that declares it. -/
def first? (spaces : List Namespace) (name : QualifiedName) : Option LoadedType :=
  spaces.findSome? fun space => space.own? name

/-- The child-first ones among several namespaces. -/
def childFirst (spaces : List Namespace) : List Namespace :=
  spaces.filter fun space => space.layer.policy = .childFirst

/-- Look a name up along the search order. If some namespace is too far away, only the child-first
namespaces below the first such one can answer. -/
def search (space : Namespace) (name : QualifiedName) : Except LoadError LoadedType :=
  match space.overrun? 0 with
  | none => match first? space.order name with
    | some type => .ok type
    | none => .error (.notFound name space.label)
  | some (beyond, index) => match first? (childFirst (space.visible.take index)) name with
    | some type => .ok type
    | none => .error (.tooManyHops name beyond.layer.maxHops)

variable {space : Namespace} {hops : Nat}

/-! ## The two lists -/

/-- A namespace is visible from itself. -/
theorem mem_visible (space : Namespace) : space ∈ space.visible := by
  cases space <;> simp [visible]

/-- The order holds the visible namespaces and no others. -/
theorem mem_order_iff {other : Namespace} : other ∈ space.order ↔ other ∈ space.visible := by
  induction space with
  | root layer => rfl
  | child layer parent ih =>
    rw [order, visible]
    cases hpolicy : layer.policy with
    | isolated => simp
    | childFirst => simp [ih]
    | parentFirst => simp [ih, or_comm]

/-- What is visible from a visible namespace is the rest of the row. -/
theorem visible_suffix {other : Namespace} (h : other ∈ space.visible) :
    other.visible <:+ space.visible := by
  induction space with
  | root layer =>
    obtain rfl : other = root layer := by simpa [visible] using h
    exact List.suffix_refl _
  | child layer parent ih =>
    rw [visible, List.mem_cons] at h
    rcases h with rfl | h
    · exact List.suffix_refl _
    · rw [visible]
      split at h
      · cases h
      · next hpolicy =>
        rw [if_neg hpolicy]
        exact (ih h).trans (List.suffix_cons _ _)

theorem overrun?_root (layer : Layer) (hops : Nat) :
    (root layer).overrun? hops = if layer.maxHops < hops then some (root layer, hops) else none := by
  by_cases h : layer.maxHops < hops <;> simp [overrun?, visible, Namespace.layer, h]

theorem overrun?_child (layer : Layer) (parent : Namespace) (hops : Nat) :
    (child layer parent).overrun? hops =
      if layer.maxHops < hops then some (child layer parent, hops)
      else if layer.policy = .isolated then none else parent.overrun? (hops + 1) := by
  by_cases h : layer.maxHops < hops
  · simp [overrun?, visible, Namespace.layer, h]
  · by_cases hpolicy : layer.policy = .isolated
    · simp [overrun?, visible, Namespace.layer, h, hpolicy]
    · simp [overrun?, visible, Namespace.layer, h, hpolicy]

theorem first?_nil (name : QualifiedName) : first? [] name = none := rfl

theorem first?_cons (space : Namespace) (spaces : List Namespace) (name : QualifiedName) :
    first? (space :: spaces) name = (space.own? name).or (first? spaces name) := by
  rw [first?, List.findSome?_cons]
  cases space.own? name <;> rfl

theorem first?_append (before behind : List Namespace) (name : QualifiedName) :
    first? (before ++ behind) name = (first? before name).or (first? behind name) :=
  List.findSome?_append

/-! ## Requests that come far enough -/

/-- What a layer that has been reached answers by itself. -/
theorem own_of_own? (space : Namespace) (name : QualifiedName) :
    (∀ type, space.own? name = some type → space.own name = .ok type) ∧
      (space.own? name = none → space.own name = .error (.notFound name space.label)) := by
  rw [own]
  constructor
  · intro type h
    rw [h]
  · intro h
    rw [h]

/-- A request that no visible namespace finds to have come too far is answered by the first
namespace in the order that declares the name; without one the name is not found. -/
theorem loadAfter_of_reachable (name : QualifiedName) (h : space.overrun? hops = none) :
    (∀ type, first? space.order name = some type → loadAfter name space hops = .ok type) ∧
      (first? space.order name = none →
        ∃ asker, loadAfter name space hops = .error (.notFound name asker)) := by
  -- a failure to find the name is the only one a layer passes over, so it is part of the induction
  induction space generalizing hops with
  | root layer =>
    rw [overrun?_root] at h
    split at h
    · cases h
    · next hnear =>
      obtain ⟨hsome, hnone⟩ := own_of_own? (root layer) name
      rw [loadAfter, if_neg hnear, order, first?_cons, first?_nil, Option.or_none]
      exact ⟨hsome, fun h => ⟨_, hnone h⟩⟩
  | child layer parent ih =>
    rw [overrun?_child] at h
    split at h
    · cases h
    · next hnear =>
      obtain ⟨hsome, hnone⟩ := own_of_own? (child layer parent) name
      rw [loadAfter, if_neg hnear, order]
      cases hpolicy : layer.policy with
      | isolated =>
        simp only [first?_cons, first?_nil, Option.or_none]
        exact ⟨hsome, fun h => ⟨_, hnone h⟩⟩
      | childFirst =>
        rw [hpolicy, if_neg (by decide)] at h
        obtain ⟨ihsome, ihnone⟩ := ih h
        simp only [first?_cons]
        cases hown : (child layer parent).own? name with
        | some type => simp
        | none =>
          simp only [Option.none_or]
          exact ⟨ihsome, ihnone⟩
      | parentFirst =>
        rw [hpolicy, if_neg (by decide)] at h
        obtain ⟨ihsome, ihnone⟩ := ih h
        simp only [first?_append, first?_cons, first?_nil, Option.or_none]
        cases hparent : first? parent.order name with
        | some type => simp [ihsome type hparent]
        | none =>
          obtain ⟨asker, hasker⟩ := ihnone hparent
          simp only [hasker, Option.none_or]
          exact ⟨hsome, fun h => ⟨_, hnone h⟩⟩

/-! ## Requests that come too far -/

/-- The number of hops at which a request is given up is at least the number it started with. -/
theorem le_of_overrun? {beyond : Namespace} {index : Nat}
    (h : space.overrun? hops = some (beyond, index)) : hops ≤ index := by
  induction space generalizing hops with
  | root layer =>
    rw [overrun?_root] at h
    split at h
    · obtain ⟨-, rfl⟩ := Prod.mk.inj (Option.some.inj h)
      exact Nat.le_refl _
    · cases h
  | child layer parent ih =>
    rw [overrun?_child] at h
    split at h
    · obtain ⟨-, rfl⟩ := Prod.mk.inj (Option.some.inj h)
      exact Nat.le_refl _
    · split at h
      · cases h
      · exact Nat.le_of_succ_le (ih h)

/-- A request that some visible namespace finds to have come too far is answered by the first
child-first namespace below the first such one that declares the name; without one it is given
up. -/
theorem loadAfter_of_overrun (name : QualifiedName) {beyond : Namespace} {index : Nat}
    (h : space.overrun? hops = some (beyond, index)) :
    loadAfter name space hops =
      match first? (childFirst (space.visible.take (index - hops))) name with
      | some type => .ok type
      | none => .error (.tooManyHops name beyond.layer.maxHops) := by
  induction space generalizing hops with
  | root layer =>
    rw [overrun?_root] at h
    split at h
    · next hfar =>
      obtain ⟨rfl, rfl⟩ := Prod.mk.inj (Option.some.inj h)
      rw [loadAfter, if_pos hfar, Nat.sub_self]
      rfl
    · cases h
  | child layer parent ih =>
    rw [overrun?_child] at h
    split at h
    · next hfar =>
      -- the request is given up right here, with no layer below it left in the row
      obtain ⟨rfl, rfl⟩ := Prod.mk.inj (Option.some.inj h)
      rw [loadAfter, if_pos hfar, Nat.sub_self]
      rfl
    · next hnear =>
      split at h
      · cases h
      · next hopen =>
        -- it is given up further above, so this layer is the first of those below
        have hle := le_of_overrun? h
        obtain ⟨below, rfl⟩ : ∃ below, index = hops + 1 + below := ⟨index - (hops + 1), by omega⟩
        have htake : (child layer parent).visible.take (hops + 1 + below - hops) =
            child layer parent :: parent.visible.take (hops + 1 + below - (hops + 1)) := by
          rw [visible, if_neg hopen, show hops + 1 + below - hops = below + 1 by omega,
            show hops + 1 + below - (hops + 1) = below by omega, List.take_succ_cons]
        rw [htake, loadAfter, if_neg hnear, ih h]
        cases hpolicy : layer.policy with
        | isolated => exact absurd hpolicy hopen
        | childFirst =>
          have hkept : childFirst (child layer parent ::
              parent.visible.take (hops + 1 + below - (hops + 1))) = child layer parent ::
                childFirst (parent.visible.take (hops + 1 + below - (hops + 1))) := by
            simp [childFirst, Namespace.layer, hpolicy]
          rw [hkept, first?_cons]
          cases (child layer parent).own? name <;> rfl
        | parentFirst =>
          have hdropped : childFirst (child layer parent ::
              parent.visible.take (hops + 1 + below - (hops + 1))) =
                childFirst (parent.visible.take (hops + 1 + below - (hops + 1))) := by
            simp [childFirst, Namespace.layer, hpolicy]
          rw [hdropped]
          cases first? (childFirst (parent.visible.take (hops + 1 + below - (hops + 1)))) name <;>
            rfl

/-! ## Loads -/

/-- Loading is searching along the order: of the namespaces that a request can reach, the first one
in the order that declares the name answers, and without one the name is not found by the namespace
that was asked. If some namespace is too far away, only the child-first namespaces below the first
such one answer, whatever the others declare, and without one the request is given up there. -/
theorem load_eq_search (space : Namespace) (name : QualifiedName) :
    space.load name = space.search name := by
  rw [load, search]
  cases hover : space.overrun? 0 with
  | none =>
    obtain ⟨hsome, hnone⟩ := loadAfter_of_reachable name hover
    cases hfirst : first? space.order name with
    | some type => rw [hsome type hfirst]
    | none =>
      obtain ⟨asker, hasker⟩ := hnone hfirst
      rw [hasker]
  | some asked =>
    obtain ⟨beyond, index⟩ := asked
    rw [loadAfter_of_overrun name hover, Nat.sub_zero]
    dsimp only
    cases first? (childFirst (space.visible.take index)) name <;> rfl

/-- A layer that asks its parent first never gets to look at its own units when the parent finds that
the request came too far. -/
example (units : Registry) (name : QualifiedName) :
    (child ⟨0, "below", .parentFirst, units, 0⟩ (root ⟨1, "above", .isolated, .empty, 0⟩)).load name =
      .error (.tooManyHops name 0) := rfl

/-! ## Where loaded types are declared -/

theorem home_of_own? {name : QualifiedName} {type : LoadedType} (h : space.own? name = some type) :
    type.home = space := by
  obtain ⟨unit, -, rfl⟩ := Option.map_eq_some_iff.1 h
  rfl

/-- A type that some namespace of a row denotes is declared there, under the name asked for. -/
theorem mem_of_first? {spaces : List Namespace} {name : QualifiedName} {type : LoadedType}
    (h : first? spaces name = some type) : type.home ∈ spaces ∧ type.home.own? name = some type := by
  obtain ⟨home, hmem, hown⟩ := List.exists_of_findSome?_eq_some h
  obtain ⟨unit, -, rfl⟩ := Option.map_eq_some_iff.1 hown
  exact ⟨hmem, hown⟩

theorem load_eq_ok_iff {name : QualifiedName} {type : LoadedType} :
    space.load name = .ok type ↔ space.loadAfter name 0 = .ok type := by
  rw [load]
  split
  · next h => simp [h]
  · rfl

end Namespace

open Namespace

/-- A type is within a namespace when it is declared, under its own name, by one of the namespaces
visible there. -/
structure LoadedType.Within (type : LoadedType) (space : Namespace) : Prop where
  home_visible : type.home ∈ space.visible
  declared : type.home.own? type.name = some type

namespace LoadedType

variable {space : Namespace} {type : LoadedType} {name : QualifiedName} {hops : Nat}

/-- The name of a declared type is the name it is declared under. -/
theorem name_of_own? (h : space.own? name = some type) : type.name = name := by
  obtain ⟨unit, hlookup, rfl⟩ := Option.map_eq_some_iff.1 h
  exact ((Registry.lookup?_eq_some_iff _).1 hlookup).2

/-- A declared type is one of the units of its home. -/
theorem Within.mem_units (h : type.Within space) : type.unit ∈ type.home.layer.units.units := by
  obtain ⟨unit, hlookup, heq⟩ := Option.map_eq_some_iff.1 h.declared
  rw [← heq]
  exact ((Registry.lookup?_eq_some_iff _).1 hlookup).1

/-- What a namespace sees of a namespace it sees is within it. -/
theorem Within.trans {home : Namespace} (h : type.Within home) (hhome : home ∈ space.visible) :
    type.Within space :=
  ⟨(visible_suffix hhome).subset h.home_visible, h.declared⟩

/-- What a load comes to, after any number of hops, is declared by a namespace that is visible. -/
theorem visible_of_loadAfter (h : space.loadAfter name hops = .ok type) :
    type.home ∈ space.visible ∧ type.home.own? name = some type := by
  cases hover : space.overrun? hops with
  | none =>
    obtain ⟨hsome, hnone⟩ := loadAfter_of_reachable name hover
    cases hfirst : first? space.order name with
    | some found =>
      obtain rfl : found = type := by simpa [hsome found hfirst] using h
      obtain ⟨hmem, hown⟩ := mem_of_first? hfirst
      exact ⟨mem_order_iff.1 hmem, hown⟩
    | none =>
      obtain ⟨asker, hasker⟩ := hnone hfirst
      simp [hasker] at h
  | some asked =>
    obtain ⟨beyond, index⟩ := asked
    rw [loadAfter_of_overrun name hover] at h
    split at h
    · next found hfirst =>
      obtain rfl : found = type := by simpa using h
      obtain ⟨hmem, hown⟩ := mem_of_first? hfirst
      exact ⟨List.mem_of_mem_take (List.mem_filter.1 hmem).1, hown⟩
    · cases h

/-- A loaded type is within the namespace that was asked and has the name asked for. -/
theorem within_of_load (h : space.load name = .ok type) : type.Within space ∧ type.name = name := by
  obtain ⟨hmem, hown⟩ := visible_of_loadAfter (load_eq_ok_iff.1 h)
  have hname := name_of_own? hown
  exact ⟨⟨hmem, hname ▸ hown⟩, hname⟩

/-- All that is within a root is declared by it. -/
theorem Within.home_of_root {layer : Layer} (h : type.Within (root layer)) :
    type.home = root layer :=
  List.mem_singleton.1 h.home_visible

/-- What a type's home loads is within every namespace the type is within. -/
theorem Within.load (h : type.Within space) {found : LoadedType}
    (hload : type.home.load name = .ok found) : found.Within space :=
  (within_of_load hload).1.trans h.home_visible

end LoadedType

end Linkage
