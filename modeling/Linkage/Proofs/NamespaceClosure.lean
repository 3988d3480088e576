import Linkage.Proofs.BoundSymbols

/-!
# Closure of namespaces

A name is loaded again and again on the way to a symbol, each time through the home of the type
that refers to it. None of these loads leaves the namespaces that are visible from the first home.
`LoadedType.Confined` says what this means for one type, and `Namespace.closed` says that it holds
of everything a namespace loads, of everything reached from there, and of the owner of every symbol
bound on it.

Two facts about rows of namespaces make it a boundary. A namespace never sees one below itself
(`notMem_visible_of_mem_ancestors`), and nobody sees past an isolated one
(`notMem_visible_of_isolated`). `Annex` is a row in which every layer declares a type of the same
name.
-/

namespace Linkage

namespace Namespace

/-- The namespaces above, visible or not, from the nearest up. -/
def ancestors : Namespace → List Namespace
  | root _ => []
  | child _ parent => parent :: parent.ancestors

variable {space other border behind : Namespace}

/-! ## Rows of namespaces -/

/-- A namespace above another one has fewer layers. -/
theorem length_layers_lt (h : other ∈ space.ancestors) :
    other.layers.length < space.layers.length := by
  induction space with
  | root layer => cases h
  | child layer parent ih =>
    rw [layers, List.length_cons]
    rcases List.mem_cons.1 h with rfl | h
    · exact Nat.lt_succ_self _
    · exact Nat.lt_succ_of_lt (ih h)

/-- A namespace is not above itself. -/
theorem notMem_ancestors (space : Namespace) : space ∉ space.ancestors :=
  fun h => Nat.lt_irrefl _ (length_layers_lt h)

/-- What a namespace sees is itself or above it. -/
theorem eq_or_mem_ancestors (h : other ∈ space.visible) :
    other = space ∨ other ∈ space.ancestors := by
  induction space with
  | root layer => exact Or.inl (List.mem_singleton.1 h)
  | child layer parent ih =>
    rw [visible] at h
    rcases List.mem_cons.1 h with rfl | h
    · exact Or.inl rfl
    · right
      split at h
      · cases h
      · rw [ancestors]
        rcases ih h with rfl | habove
        · exact List.mem_cons_self
        · exact List.mem_cons_of_mem _ habove

/-- Two namespaces that are seen from one have the same number of layers only if they are the
same. -/
theorem eq_of_length_layers_eq {one : Namespace} (hone : one ∈ space.visible)
    (h : other ∈ space.visible) (hlength : one.layers.length = other.layers.length) :
    one = other := by
  induction space with
  | root layer => exact (List.mem_singleton.1 hone).trans (List.mem_singleton.1 h).symm
  | child layer parent ih =>
    -- the entrance has a layer more than whatever is seen behind it
    have behind : ∀ seen ∈ if layer.policy = .isolated then [] else parent.visible,
        seen ∈ parent.visible ∧ seen.layers.length < (child layer parent).layers.length := by
      intro seen hseen
      split at hseen
      · cases hseen
      · refine ⟨hseen, length_layers_lt ?_⟩
        rcases eq_or_mem_ancestors hseen with rfl | habove
        · exact List.mem_cons_self
        · exact List.mem_cons_of_mem _ habove
    rcases List.mem_cons.1 hone with rfl | hone
    · rcases List.mem_cons.1 h with rfl | h
      · rfl
      · exact absurd hlength.symm (Nat.ne_of_lt (behind other h).2)
    · rcases List.mem_cons.1 h with rfl | h
      · exact absurd hlength (Nat.ne_of_lt (behind one hone).2)
      · exact ih (behind one hone).1 (behind other h).1

/-- A namespace does not see those below it. -/
theorem notMem_visible_of_mem_ancestors (h : space ∈ other.ancestors) : other ∉ space.visible := by
  intro hvisible
  have hbelow := length_layers_lt h
  rcases eq_or_mem_ancestors hvisible with rfl | habove
  · exact notMem_ancestors _ h
  · exact Nat.lt_asymm hbelow (length_layers_lt habove)

/-- A namespace does not see those behind an isolated one, be that itself or above it. -/
theorem notMem_visible_of_isolated (hborder : border = space ∨ border ∈ space.ancestors)
    (hpolicy : border.layer.policy = .isolated) (hbehind : behind ∈ border.ancestors) :
    behind ∉ space.visible := by
  -- the isolated namespace is where the row begins, or further up, where it ends earlier still
  induction space with
  | root layer =>
    rcases hborder with rfl | hborder
    · cases hbehind
    · cases hborder
  | child layer parent ih =>
    rw [visible, List.mem_cons, not_or]
    rcases hborder with rfl | hborder
    · have hself : behind ≠ child layer parent := fun h => notMem_ancestors _ (h ▸ hbehind)
      rw [Namespace.layer] at hpolicy
      rw [if_pos hpolicy]
      exact ⟨hself, List.not_mem_nil⟩
    · have hself : behind ≠ child layer parent := by
        rintro rfl
        exact Nat.lt_asymm (length_layers_lt hbehind) (length_layers_lt hborder)
      refine ⟨hself, ?_⟩
      split
      · exact List.not_mem_nil
      · exact ih (List.mem_cons.1 hborder)

end Namespace

open Namespace

/-- A type is confined to a namespace: one of those visible there declares it under its own name,
which is neither one below the namespace nor one behind an isolated one. -/
structure LoadedType.Confined (type : LoadedType) (space : Namespace) : Prop where
  within : type.Within space
  not_below : ∀ below, space ∈ below.ancestors → type.home ≠ below
  not_behind : ∀ border, border = space ∨ border ∈ space.ancestors →
    border.layer.policy = .isolated → ∀ behind ∈ border.ancestors, type.home ≠ behind

namespace LoadedType

variable {space : Namespace} {type target above : LoadedType} {listed : List LoadedType}

theorem Within.confined (h : type.Within space) : type.Confined space where
  within := h
  not_below := by
    rintro below hbelow rfl
    exact notMem_visible_of_mem_ancestors hbelow h.home_visible
  not_behind := by
    rintro border hborder hpolicy behind hbehind rfl
    exact notMem_visible_of_isolated hborder hpolicy hbehind h.home_visible

/-- A type is within its home wherever it is within some namespace. -/
theorem Within.at_home (h : type.Within space) : type.Within type.home :=
  ⟨mem_visible _, h.declared⟩

/-- What is reached from a type is confined to the home of that type. -/
theorem Reaches.confined (h : target.Reaches type) (inside : target.Within space) :
    type.Confined target.home ∧ type.Confined space :=
  ⟨(h.within inside.at_home).confined, (h.within inside).confined⟩

/-- The parent of a type has the name that the type gives it. -/
theorem name_of_parent (h : type.parent = .ok (some above)) :
    type.unit.parent = some above.name := by
  obtain ⟨name, hname, hload⟩ := exists_load_of_parent h
  rw [hname, (within_of_load hload).2]

/-- The capabilities of a type have the names that the type lists. -/
theorem names_of_capabilities (h : type.capabilities = .ok listed) :
    listed.map LoadedType.name = type.unit.capabilities :=
  Except.map_of_mapM (fun _ _ hload => (within_of_load hload).2) h

end LoadedType

/-- The owner of the symbol that a request comes to is confined to the home of the type asked for. -/
theorem Resolver.exists_confined_of_resolve {resolver : Resolver} {request : Request}
    {symbol : Symbol} (h : resolver.resolve request = .ok symbol) :
    ∃ target, resolver.space.load request.type = .ok target ∧
      symbol.owner.Confined target.home ∧ symbol.owner.Confined resolver.space := by
  obtain ⟨target, hload, -, hsymbol⟩ := exists_target_of_resolve h
  exact ⟨target, hload, hsymbol.owner_reached.confined (LoadedType.within_of_load hload).1⟩

/-- A direct call is bound as a virtual one or as a static one. -/
theorem Namespace.exists_dispatch_of_resolve {space : Namespace} {type : QualifiedName}
    {key : MemberKey} {symbol : Symbol} (h : space.resolve type key = .ok symbol) :
    ∃ dispatch, (Resolver.ofNamespace space).resolve ⟨type, key, dispatch⟩ = .ok symbol := by
  rw [Namespace.resolve] at h
  split at h
  · exact ⟨.static, h⟩
  · exact ⟨.virtual, h⟩

/-! ## Closure -/

/-- A namespace is closed. What it loads has the name asked for and is confined to it. What is
reached from a type by its parents and capabilities is confined to the home of that type, and has
the names by which the references ask. So has the owner of every symbol bound on the type, whatever
resolver binds it, and of every symbol that a request to the namespace comes to. -/
theorem Namespace.closed (space : Namespace) :
    (∀ name target, space.load name = .ok target →
      target.Confined space ∧ target.name = name) ∧
    (∀ target, target.Within space →
      (∀ type, target.Reaches type →
        type.Confined target.home ∧ type.Confined space ∧
        (∀ above, type.parent = .ok (some above) →
          target.Reaches above ∧ type.unit.parent = some above.name) ∧
        (∀ listed, type.capabilities = .ok listed →
          (∀ capability ∈ listed, target.Reaches capability) ∧
            listed.map LoadedType.name = type.unit.capabilities)) ∧
      (∀ (resolver : Resolver) key dispatch symbol,
        resolver.bind target key dispatch = .ok symbol →
          symbol.owner.Confined target.home ∧ symbol.owner.Confined space)) ∧
    (∀ (resolver : Resolver) request symbol, resolver.space = space →
      resolver.resolve request = .ok symbol →
        ∃ target, space.load request.type = .ok target ∧
          symbol.owner.Confined target.home ∧ symbol.owner.Confined space) ∧
    (∀ type key symbol, space.resolve type key = .ok symbol →
      ∃ target, space.load type = .ok target ∧
        symbol.owner.Confined target.home ∧ symbol.owner.Confined space) := by
  refine ⟨?_, ?_, ?_, ?_⟩
  · intro name target hload
    obtain ⟨hwithin, hname⟩ := LoadedType.within_of_load hload
    exact ⟨hwithin.confined, hname⟩
  · intro target hwithin
    constructor
    · intro type hreaches
      obtain ⟨hhome, hspace⟩ := hreaches.confined hwithin
      refine ⟨hhome, hspace, ?_, ?_⟩
      · intro above hparent
        exact ⟨hreaches.parent hparent, LoadedType.name_of_parent hparent⟩
      · intro listed hlisted
        exact ⟨fun _ hmem => hreaches.capability hlisted hmem,
          LoadedType.names_of_capabilities hlisted⟩
    · intro resolver key dispatch symbol hbind
      exact (Resolver.reachedFrom_of_bind hbind).owner_reached.confined hwithin
  · rintro resolver request symbol rfl hresolve
    exact Resolver.exists_confined_of_resolve hresolve
  · intro type key symbol hresolve
    obtain ⟨dispatch, hdispatch⟩ := exists_dispatch_of_resolve hresolve
    exact Resolver.exists_confined_of_resolve hdispatch

/-! ## A row of namesakes -/

namespace Annex

/-- The member that the classes share. -/
def key : MemberKey := ⟨"run", ⟨[]⟩⟩

/-- A class that answers under a tag. -/
def base (tag : String) : CodeUnit where
  id := ⟨0, ⟨"Base"⟩, .concreteClass, none, [], [⟨key, .virtual, some (.transfer tag)⟩]⟩
  valid := Declaration.fault?_eq_none_iff.1 rfl

/-- A class below it that leaves the answer to it. -/
def leaf : CodeUnit where
  id := ⟨0, ⟨"Leaf"⟩, .concreteClass, some ⟨"Base"⟩, [], []⟩
  valid := Declaration.fault?_eq_none_iff.1 (by decide)

/-- The root, which lies behind an isolated layer. -/
def cellar : Namespace := .root ⟨2, "cellar", .isolated, ⟨[base "cellar"], by decide⟩, 32⟩

/-- The isolated layer, the only one that declares the class below. -/
def house : Namespace :=
  .child ⟨1, "house", .isolated, ⟨[base "house", leaf], by decide⟩, 32⟩ cellar

/-- The entrance, which asks itself first. -/
def porch : Namespace := .child ⟨0, "porch", .childFirst, ⟨[base "porch"], by decide⟩, 32⟩ house

theorem load_leaf : porch.load ⟨"Leaf"⟩ = .ok ⟨leaf, house⟩ := rfl

theorem parent_leaf : LoadedType.parent ⟨leaf, house⟩ = .ok (some ⟨base "house", house⟩) := rfl

/-- The answer of the isolated layer's own class. -/
def symbol : Symbol :=
  ⟨⟨base "house", house⟩, .virtual, ⟨key, .virtual, some (.transfer "house")⟩, .transfer "house",
    .inherited ⟨"Base"⟩, some ⟨⟨leaf, house⟩, none⟩⟩

theorem bind_leaf :
    (Resolver.ofNamespace porch).bind ⟨leaf, house⟩ key .virtual = .ok symbol := rfl

end Annex

/-- The class of the isolated layer is asked for at the entrance. Its parent and the owner of its
member are the isolated layer's own, and neither the namesake at the entrance nor the one behind. -/
theorem Namespace.closed_annex :
    (⟨Annex.leaf, Annex.house⟩ : LoadedType).Confined Annex.porch ∧
      (⟨Annex.base "house", Annex.house⟩ : LoadedType).Confined Annex.house ∧
      Annex.symbol.owner.home ≠ Annex.porch ∧ Annex.symbol.owner.home ≠ Annex.cellar := by
  obtain ⟨loads, within, -, -⟩ := closed Annex.porch
  have htarget := (loads _ _ Annex.load_leaf).1
  obtain ⟨reaches, binds⟩ := within _ htarget.within
  have habove := ((reaches _ .refl).2.2.1 _ Annex.parent_leaf).1
  have howner := (binds _ _ _ _ Annex.bind_leaf).1
  refine ⟨htarget, (reaches _ habove).1, howner.not_below _ ?_, ?_⟩
  · exact List.mem_cons_self
  · exact howner.not_behind _ (Or.inl rfl) rfl _ List.mem_cons_self

end Linkage
