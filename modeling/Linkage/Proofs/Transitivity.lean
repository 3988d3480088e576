import Linkage.Proofs.FactorySlots
import Linkage.Proofs.NamespaceClosure

/-!
# Assignability through a type in the middle

An instance that can be held as a type need not be good for everything that type is good for. The
walk climbs from parent to parent, but it takes a capability as a name on a list: what a capability
refers to itself is not followed from the types that list it. And it takes a type as a unit: what the
unit refers to may be something else where a copy of it is loaded through another home.
`LoadedType.Covers` says of a row and a capability that the first loses nothing, because the row
stands for all of that anyway.

`LoadedType.isAssignable_trans_iff` says that assignability goes through every type that is itself on
the row, and through every type that refers to nothing. Where no unit is reached in two copies, it
goes through all types in the middle exactly when the row covers each capability it lists. `Guild` is
a class that is listed as a capability, and through which it does not go
(`LoadedType.not_isAssignable_smith`).
-/

namespace Linkage

namespace LoadedType

/-- Whether a row of types stands for everything a capability refers to: for its parent, and for the
capabilities it lists itself. -/
structure Covers (chain : List LoadedType) (capability : LoadedType) : Prop where
  parent : ∀ above, capability.parent = .ok (some above) → StandsFor chain above
  listed : ∀ further ∈ capability.listed, StandsFor chain further

/-- Whether a row of types stands for a type that is not itself on the row and refers to something:
it has a parent or lists capabilities itself. The row has it as a capability then, or as a copy that
is loaded through another home. -/
structure Aside (chain : List LoadedType) (middle : LoadedType) : Prop where
  off_row : middle ∉ chain
  held : (∃ lister ∈ chain, ∃ capability ∈ lister.listed, capability.SameUnit middle) ∨
    ∃ copy ∈ chain, copy.SameUnit middle
  refers : ∃ name, middle.RefersTo name

/-- Whether no unit is reached from a type in two copies. -/
def Unrepeated (start : LoadedType) : Prop :=
  ∀ a b, start.Reaches a → start.Reaches b → a.SameUnit b → a = b

variable {start current runtime middle reference above : LoadedType} {capabilities : List LoadedType}
  {chain : List LoadedType} {limit left maxHops hops : Nat}

/-! ## Types on a row -/

theorem StandsFor.of_suffix {rest : List LoadedType} (stands : StandsFor rest reference)
    (h : rest <:+ chain) : StandsFor chain reference := by
  obtain ⟨type, hmem, htype⟩ := stands
  exact ⟨type, h.subset hmem, htype⟩

/-- A row covers each of its types, since the parents are on the row too. -/
theorem Ascent.covers (ascent : runtime.Ascent chain) (hmem : current ∈ chain) :
    Covers chain current := by
  obtain ⟨rest, hrest, hsuffix⟩ := ascent.exists_suffix hmem
  constructor
  · intro above hparent
    rcases hrest.parent with ⟨hnone, -⟩ | ⟨next, hnext, more⟩
    · cases hnone.symm.trans hparent
    · cases hnext.symm.trans hparent
      have habove : above ∈ rest := List.mem_of_mem_tail (List.mem_of_mem_head? more.head?)
      exact ⟨above, hsuffix.subset habove, Or.inl (.refl above)⟩
  · intro further hlisted
    exact ⟨current, hmem, Or.inr ⟨further, hlisted, .refl further⟩⟩

/-- All types of a row are reached from the first one. -/
theorem Ascent.reaches (ascent : runtime.Ascent chain) (reached : start.Reaches runtime) :
    ∀ type ∈ chain, start.Reaches type := by
  induction ascent with
  | top =>
    intro type hmem
    exact List.mem_singleton.1 hmem ▸ reached
  | step _ hparent _ ih =>
    intro type hmem
    rcases List.mem_cons.1 hmem with rfl | hmem
    · exact reached
    · exact ih (reached.parent hparent) type hmem

/-- What is reached and stood for is on the row or listed there, when it is reached in no other
copy. -/
theorem StandsFor.mem_or_listed (stands : StandsFor chain middle) (ascent : runtime.Ascent chain)
    (unrepeated : runtime.Unrepeated) (reached : runtime.Reaches middle) :
    middle ∈ chain ∨ ∃ lister ∈ chain, middle ∈ lister.listed := by
  obtain ⟨type, hmem, hsame | ⟨capability, hlisted, hsame⟩⟩ := stands
  · obtain rfl := unrepeated type middle (ascent.reaches .refl type hmem) reached hsame
    exact Or.inl hmem
  · obtain ⟨capabilities, hcaps, hcapability⟩ := mem_listed_iff.1 hlisted
    have hreached := (ascent.reaches .refl type hmem).capability hcaps hcapability
    obtain rfl := unrepeated capability middle hreached reached hsame
    exact Or.inr ⟨type, hmem, hlisted⟩

/-- In a root nothing is reached in two copies, since all that is reached has its home there. -/
theorem Within.unrepeated {layer : Layer} (inside : start.Within (.root layer)) :
    start.Unrepeated := by
  intro a b ha hb hsame
  have hhome := (ha.within inside).home_of_root.trans (hb.within inside).home_of_root.symm
  cases a
  cases b
  rw [LoadedType.mk.injEq]
  exact ⟨sameUnit_iff.1 hsame, hhome⟩

/-! ## Walks from the type in the middle -/

/-- A walk that starts at the reference says yes before anything is loaded. -/
theorem assignableFrom_of_sameUnit (h : current.SameUnit reference) :
    assignableFrom start limit reference left current = .ok true := by
  rw [assignableFrom.eq_def]
  exact if_pos h

/-- With a step to take, a type can be held as its parent. -/
theorem isAssignable_of_parent (hcaps : current.capabilities = .ok capabilities)
    (hparent : current.parent = .ok (some above)) :
    current.isAssignable above (hops + 1) = .ok true := by
  by_cases here : current.Shows above
  · exact assignableFrom_of_shows hcaps here
  · rw [isAssignable, assignableFrom_succ hcaps here hparent]
    exact assignableFrom_of_sameUnit (.refl above)

/-- A type that refers to nothing can only be held as itself. -/
theorem sameUnit_of_assignableFrom (refers : ¬ ∃ name, current.RefersTo name)
    (h : assignableFrom start limit reference left current = .ok true) :
    current.SameUnit reference := by
  rcases assignableFrom_eq_true h with hsame | ⟨_, hcaps, capability, hmem, -⟩ | ⟨_, _, hparent, -, -⟩
  · exact hsame
  · obtain ⟨name, hname, -⟩ := Except.exists_of_mem_mapM hcaps hmem
    exact absurd ⟨name, Or.inr hname⟩ refers
  · exact absurd ⟨_, Or.inl (name_of_parent hparent)⟩ refers

/-- What a row stands for it stands for in every copy. -/
theorem StandsFor.of_sameUnit (stands : StandsFor chain current) (h : current.SameUnit reference) :
    StandsFor chain reference := by
  obtain ⟨type, hmem, hsame | ⟨capability, hlisted, hsame⟩⟩ := stands
  · exact ⟨type, hmem, Or.inl (hsame.trans h)⟩
  · exact ⟨type, hmem, Or.inr ⟨capability, hlisted, hsame.trans h⟩⟩

/-- Where a row covers all it stands for, as far as that is reached, it stands for whatever a walk
finds from there. -/
theorem StandsFor.of_assignableFrom {origin : LoadedType}
    (covers : ∀ type, origin.Reaches type → StandsFor chain type → Covers chain type)
    (reached : origin.Reaches current) (stands : StandsFor chain current)
    (h : assignableFrom start limit reference left current = .ok true) :
    StandsFor chain reference := by
  -- the walk leaves the row as soon as it starts at a capability, so only standing for is kept
  induction left using Nat.strongRecOn generalizing current with
  | ind left ih =>
    have hcovers := covers current reached stands
    rcases assignableFrom_eq_true h with
      hsame | ⟨_, hcaps, capability, hmem, hsame⟩ | ⟨above, fewer, hparent, rfl, hmore⟩
    · exact stands.of_sameUnit hsame
    · exact (hcovers.listed capability (mem_listed_iff.2 ⟨_, hcaps, hmem⟩)).of_sameUnit hsame
    · exact ih fewer (Nat.lt_succ_self fewer) (reached.parent hparent)
        (hcovers.parent above hparent) hmore

/-- What a row stands for through a type in the middle it stands for itself, unless the type in the
middle is aside. -/
theorem StandsFor.trans_or_aside (ascent : runtime.Ascent chain) (stands : StandsFor chain middle)
    (h : assignableFrom start limit reference left middle = .ok true) :
    StandsFor chain reference ∨ Aside chain middle ∧ ¬ middle.SameUnit reference := by
  by_cases hsame : middle.SameUnit reference
  · exact Or.inl (stands.of_sameUnit hsame)
  by_cases hmem : middle ∈ chain
  · obtain ⟨rest, hrest, hsuffix⟩ := ascent.exists_suffix hmem
    exact Or.inl ((standsFor_of_assignableFrom hrest h).of_suffix hsuffix)
  · have refers : ∃ name, middle.RefersTo name :=
      Classical.byContradiction fun refers => hsame (sameUnit_of_assignableFrom refers h)
    right
    obtain ⟨type, htype, hcopy | hlisted⟩ := stands
    · exact ⟨⟨hmem, Or.inr ⟨type, htype, hcopy⟩, refers⟩, hsame⟩
    · exact ⟨⟨hmem, Or.inl ⟨type, htype, hlisted⟩, refers⟩, hsame⟩

/-- Assignability goes through a type in the middle unless that is aside; then the answer may be no.
Where no unit is reached in two copies and the listed capabilities can load what they list
themselves, it goes through all types in the middle that are reached exactly when the row itself
stands for what each of the listed capabilities refers to. -/
theorem isAssignable_trans_iff (maxHops : Nat) (ascent : runtime.Ascent chain)
    (short : chain.length ≤ maxHops) :
    (∀ middle reference, runtime.isAssignable middle maxHops = .ok true →
      middle.isAssignable reference maxHops = .ok true →
        runtime.isAssignable reference maxHops = .ok true ∨
          runtime.isAssignable reference maxHops = .ok false ∧
            Aside chain middle ∧ ¬ middle.SameUnit reference) ∧
    (runtime.Unrepeated → (∀ type ∈ chain, ∀ capability ∈ type.listed,
        ∃ further, capability.capabilities = .ok further) →
      ((∀ middle reference, runtime.Reaches middle →
        runtime.isAssignable middle maxHops = .ok true →
        middle.isAssignable reference maxHops = .ok true →
          runtime.isAssignable reference maxHops = .ok true) ↔
        ∀ type ∈ chain, ∀ capability ∈ type.listed, Covers chain capability)) := by
  have hwalk : ∀ type, runtime.isAssignable type maxHops =
      if StandsFor chain type then .ok true else .ok false := fun type => by
    rw [isAssignable_of_ascent ascent (Nat.le_succ_of_le short), if_pos short]
  have hyes : ∀ type, runtime.isAssignable type maxHops = .ok true ↔ StandsFor chain type :=
    fun type => isAssignable_eq_true_iff ascent (Nat.le_succ_of_le short)
  refine ⟨fun middle reference hmiddle hreference => ?_, fun unrepeated loads => ⟨?_, ?_⟩⟩
  · rcases ((hyes middle).1 hmiddle).trans_or_aside ascent hreference with hstands | haside
    · exact Or.inl ((hyes reference).2 hstands)
    · by_cases hstands : StandsFor chain reference
      · exact Or.inl ((hyes reference).2 hstands)
      · exact Or.inr ⟨(hwalk reference).trans (if_neg hstands), haside⟩
  · intro through type hmem capability hlisted
    obtain ⟨further, hcaps⟩ := loads type hmem capability hlisted
    obtain ⟨capabilities, hall, hcapability⟩ := mem_listed_iff.1 hlisted
    have hreached := (ascent.reaches .refl type hmem).capability hall hcapability
    have hheld := (hyes capability).2
      ⟨type, hmem, Or.inr ⟨capability, hlisted, .refl capability⟩⟩
    constructor
    · intro above hparent
      -- the row has a type, so the bound leaves the step to the parent
      obtain ⟨hops, rfl⟩ : ∃ hops, maxHops = hops + 1 :=
        Nat.exists_eq_add_one.2 (Nat.lt_of_lt_of_le (List.length_pos_of_mem hmem) short)
      exact (hyes above).1 (through _ _ hreached hheld (isAssignable_of_parent hcaps hparent))
    · intro other hother
      have hshows : capability.Shows other := Or.inr ⟨other, hother, .refl other⟩
      exact (hyes other).1 (through _ _ hreached hheld (assignableFrom_of_shows hcaps hshows))
  · intro covers middle reference hreached hmiddle hreference
    have hall : ∀ type, runtime.Reaches type → StandsFor chain type → Covers chain type := by
      intro type htype hstands
      rcases hstands.mem_or_listed ascent unrepeated htype with hmem | ⟨lister, hmem, hlisted⟩
      · exact ascent.covers hmem
      · exact covers lister hmem type hlisted
    exact (hyes reference).2 (((hyes middle).1 hmiddle).of_assignableFrom hall hreached hreference)

end LoadedType

/-! ## A class among the capabilities -/

namespace Guild

/-- The class at the top. -/
def crown : CodeUnit := Fork.unit "Crown" .concreteClass none [] [] (by decide)

/-- A class below it, which others list as a capability. -/
def guild : CodeUnit := Fork.unit "Guild" .concreteClass (some ⟨"Crown"⟩) [] [] (by decide)

/-- A class that lists it and has no parent. -/
def smith : CodeUnit := Fork.unit "Smith" .concreteClass none [⟨"Guild"⟩] [] (by decide)

/-- A class that lists it and has the class at the top as its own parent. -/
def knight : CodeUnit :=
  Fork.unit "Knight" .concreteClass (some ⟨"Crown"⟩) [⟨"Guild"⟩] [] (by decide)

/-- The namespace of all four. -/
def space : Namespace :=
  .root ⟨0, "guild", .isolated, ⟨[crown, guild, smith, knight], by decide⟩, 32⟩

theorem ascent_crown : LoadedType.Ascent ⟨crown, space⟩ [⟨crown, space⟩] := .top rfl rfl

theorem ascent_guild : LoadedType.Ascent ⟨guild, space⟩ [⟨guild, space⟩, ⟨crown, space⟩] :=
  .step rfl rfl ascent_crown

theorem ascent_smith : LoadedType.Ascent ⟨smith, space⟩ [⟨smith, space⟩] := .top rfl rfl

theorem ascent_knight : LoadedType.Ascent ⟨knight, space⟩ [⟨knight, space⟩, ⟨crown, space⟩] :=
  .step rfl rfl ascent_crown

theorem capabilities_guild : LoadedType.capabilities ⟨guild, space⟩ = .ok [] := rfl

theorem parent_guild : LoadedType.parent ⟨guild, space⟩ = .ok (some ⟨crown, space⟩) := rfl

theorem listed_crown : LoadedType.listed ⟨crown, space⟩ = [] := rfl

theorem listed_guild : LoadedType.listed ⟨guild, space⟩ = [] := rfl

theorem listed_smith : LoadedType.listed ⟨smith, space⟩ = [⟨guild, space⟩] := rfl

theorem listed_knight : LoadedType.listed ⟨knight, space⟩ = [⟨guild, space⟩] := rfl

/-- What lists the listed class shows it. -/
theorem shows_guild {type : LoadedType} (h : type.listed = [⟨guild, space⟩]) :
    type.Shows ⟨guild, space⟩ :=
  Or.inr ⟨_, h ▸ List.mem_singleton_self _, .refl _⟩

/-- Both classes that list it can be held as the listed class. -/
theorem held_as_guild : LoadedType.isAssignable ⟨smith, space⟩ ⟨guild, space⟩ 4 = .ok true ∧
    LoadedType.isAssignable ⟨knight, space⟩ ⟨guild, space⟩ 4 = .ok true :=
  ⟨LoadedType.assignableFrom_of_shows rfl (shows_guild listed_smith),
    LoadedType.assignableFrom_of_shows rfl (shows_guild listed_knight)⟩

/-- The listed class can be held as its parent. -/
theorem held_as_crown :
    LoadedType.isAssignable ⟨guild, space⟩ ⟨crown, space⟩ 4 = .ok true :=
  LoadedType.isAssignable_of_parent capabilities_guild parent_guild

/-- The class with a parent of its own has what the listed class refers to on its row. -/
theorem covers_guild : LoadedType.Covers [⟨knight, space⟩, ⟨crown, space⟩] ⟨guild, space⟩ where
  parent := by
    intro above hparent
    cases parent_guild.symm.trans hparent
    exact ⟨_, List.mem_cons_of_mem _ List.mem_cons_self, Or.inl (.refl _)⟩
  listed := by
    intro further hlisted
    rw [listed_guild] at hlisted
    cases hlisted

theorem unrepeated_knight : LoadedType.Unrepeated ⟨knight, space⟩ :=
  (show LoadedType.Within ⟨knight, space⟩ space from ⟨space.mem_visible, rfl⟩).unrepeated

/-- A class that lists the listed class and has no parent cannot be held as that parent. -/
theorem not_held_as_crown :
    LoadedType.isAssignable ⟨smith, space⟩ ⟨crown, space⟩ 4 = .ok false := by
  rw [LoadedType.isAssignable_of_ascent ascent_smith (by decide), if_neg (by decide),
    if_pos (by decide)]

end Guild

/-- The class with a parent of its own covers what the listed class refers to, so it can be held as
everything that class can be held as. For the class without one, the listed class is aside. -/
theorem LoadedType.isAssignable_knight :
    LoadedType.isAssignable ⟨Guild.knight, Guild.space⟩ ⟨Guild.crown, Guild.space⟩ 4 = .ok true ∧
      LoadedType.Aside [⟨Guild.smith, Guild.space⟩] ⟨Guild.guild, Guild.space⟩ := by
  constructor
  · have hknight := (isAssignable_trans_iff 4 Guild.ascent_knight (by decide)).2
      Guild.unrepeated_knight (by simp [Guild.listed_knight, Guild.listed_crown,
        Guild.capabilities_guild])
    have hreached : LoadedType.Reaches ⟨Guild.knight, Guild.space⟩ ⟨Guild.guild, Guild.space⟩ :=
      Reaches.refl.capability (show _ = Except.ok [⟨Guild.guild, Guild.space⟩] from rfl)
        (List.mem_singleton_self _)
    refine hknight.2 ?_ _ _ hreached Guild.held_as_guild.2 Guild.held_as_crown
    simp [Guild.listed_knight, Guild.listed_crown, Guild.covers_guild]
  · have hsmith := isAssignable_trans_iff 4 Guild.ascent_smith (by decide)
    rcases hsmith.1 _ _ Guild.held_as_guild.1 Guild.held_as_crown with hyes | ⟨-, haside, -⟩
    · cases Guild.not_held_as_crown.symm.trans hyes
    · exact haside

/-- The instance can be held as a class that its own layer has a copy of, but not as the parent that
its layer gives the copy. -/
example : LoadedType.isAssignable ⟨Relay.leaf, Relay.lower⟩ ⟨Relay.link, Relay.lower⟩ 8 = .ok true ∧
    LoadedType.isAssignable ⟨Relay.link, Relay.lower⟩ ⟨Relay.full, Relay.lower⟩ 8 = .ok true ∧
    LoadedType.isAssignable ⟨Relay.leaf, Relay.lower⟩ ⟨Relay.full, Relay.lower⟩ 8 = .ok false :=
  ⟨rfl, rfl, rfl⟩

/-- The class without a parent can be held as the class it lists, and that class as its own parent,
but the first one cannot be held as that parent. All three rows are well within the bound. -/
theorem LoadedType.not_isAssignable_smith :
    (LoadedType.Ascent ⟨Guild.smith, Guild.space⟩ [⟨Guild.smith, Guild.space⟩] ∧
      LoadedType.Ascent ⟨Guild.guild, Guild.space⟩
        [⟨Guild.guild, Guild.space⟩, ⟨Guild.crown, Guild.space⟩] ∧
      LoadedType.Ascent ⟨Guild.crown, Guild.space⟩ [⟨Guild.crown, Guild.space⟩]) ∧
    LoadedType.isAssignable ⟨Guild.smith, Guild.space⟩ ⟨Guild.guild, Guild.space⟩ 4 = .ok true ∧
    LoadedType.isAssignable ⟨Guild.guild, Guild.space⟩ ⟨Guild.crown, Guild.space⟩ 4 = .ok true ∧
    LoadedType.isAssignable ⟨Guild.smith, Guild.space⟩ ⟨Guild.crown, Guild.space⟩ 4 = .ok false :=
  ⟨⟨Guild.ascent_smith, Guild.ascent_guild, Guild.ascent_crown⟩, Guild.held_as_guild.1,
    Guild.held_as_crown, Guild.not_held_as_crown⟩

end Linkage
