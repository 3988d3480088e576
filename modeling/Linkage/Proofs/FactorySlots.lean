import Linkage.Proofs.Assignability
import Linkage.Proofs.InstanceDispatch

/-!
# Slots of factory calls

An instance that is held as another type is called by two rules. The type it is held as has to have
the member, and the instance has to answer. Both look at a row of types in the same way: at the
instance members of its types and at the defaults of the capabilities that these list,
`LoadedType.Slot`. What else a capability declares, an abstract member in particular, is not looked
at from the types that list it.

`Resolver.resolve_factory_of_slots` says which of the two rules fails when, for an instance that can
be held as the type and a member that the type, or a type it can be held as itself, declares.
`Hollow` has both failures: an abstract member of a capability is missed on the instance, and it is
missed on the type that the instance is held as (`Resolver.noSuchMember_hollow`). In `Relay` one unit
is loaded through two namespaces, and has a parent with the member only in one of them.
-/

namespace Linkage

namespace LoadedType

/-- Whether a row of types has a slot for a key: a type of the row declares an instance member under
it, or a capability that a type of the row lists declares a default. -/
def Slot (key : MemberKey) (chain : List LoadedType) : Prop :=
  (∃ type ∈ chain, (type.unit.instanceMember? key).isSome = true) ∨
    ∃ type ∈ chain, ∃ capability ∈ type.listed,
      (capability.unit.memberOfKind? .default key).isSome = true

variable {target reference : LoadedType} {key : MemberKey} {chain : List LoadedType}
  {depth maxHops : Nat}

/-! ## Slots and walks -/

/-- What is said of the types of a row does not depend on their depths. -/
theorem forall_mem_zipIdx (property : LoadedType → Prop) :
    (∀ place ∈ chain.zipIdx depth, property place.1) ↔ ∀ type ∈ chain, property type := by
  rw [← List.forall_mem_map, List.zipIdx_map_fst]

/-- There is no first hit exactly when no type of the row declares an instance member. -/
theorem firstHit?_eq_none_iff :
    firstHit? key depth chain = none ↔ ∀ type ∈ chain, type.unit.instanceMember? key = none := by
  rw [firstHit?, List.findSome?_eq_none_iff]
  simp only [Option.map_eq_none_iff]
  exact forall_mem_zipIdx fun type => type.unit.instanceMember? key = none

/-- Nothing is collected exactly when no listed capability declares a default. -/
theorem defaultsOn_eq_nil_iff :
    defaultsOn key chain = [] ↔ ∀ type ∈ chain, ∀ capability ∈ type.listed,
      capability.unit.memberOfKind? .default key = none := by
  have hdistinct : defaultsOn key chain = [] ↔ offers key 0 chain = [] := by
    rw [defaultsOn]
    cases offers key 0 chain <;> simp [List.eraseDupsBy_cons]
  rw [hdistinct, offers, List.flatMap_eq_nil_iff]
  simp only [supplied, List.filterMap_eq_nil_iff, Option.map_eq_none_iff]
  exact forall_mem_zipIdx fun type => ∀ capability ∈ type.listed,
    capability.unit.memberOfKind? .default key = none

/-- A row has no slot exactly when neither of the two walks finds anything there. -/
theorem not_slot_iff :
    ¬ Slot key chain ↔ firstHit? key 0 chain = none ∧ defaultsOn key chain = [] := by
  rw [firstHit?_eq_none_iff, defaultsOn_eq_nil_iff, Slot]
  simp

theorem hasSlot_of_slot (ascent : reference.Ascent chain) (short : chain.length ≤ maxHops + 1)
    (slot : Slot key chain) : reference.hasSlot key maxHops = .ok true := by
  rw [hasSlot, findInChain_of_ascent ascent short, Except.ok_bind]
  cases hhit : firstHit? key 0 chain with
  | some hit => rfl
  | none =>
    have hdefaults : defaultsOn key chain ≠ [] := fun hnil => not_slot_iff.2 ⟨hhit, hnil⟩ slot
    simp [collectDefaults_of_ascent ascent short, hdefaults]

theorem hasSlot_of_not_slot (ascent : reference.Ascent chain) (short : chain.length ≤ maxHops + 1)
    (noSlot : ¬ Slot key chain) : reference.hasSlot key maxHops = .ok false := by
  obtain ⟨hhit, hdefaults⟩ := not_slot_iff.1 noSlot
  rw [hasSlot, findInChain_of_ascent ascent short, Except.ok_bind, hhit]
  simp [collectDefaults_of_ascent ascent short, hdefaults]

/-! ## Rows above a type of a row -/

/-- A type has one row. -/
theorem Ascent.unique {other : List LoadedType} (ascent : target.Ascent chain)
    (ascent' : target.Ascent other) : chain = other := by
  -- both rows end, or go on with the same parent, since the parent is loaded from the type alone
  induction ascent generalizing other with
  | top _ hparent =>
    cases ascent' with
    | top => rfl
    | step _ hparent' => cases hparent.symm.trans hparent'
  | step _ hparent _ ih =>
    cases ascent' with
    | top _ hparent' => cases hparent.symm.trans hparent'
    | step _ hparent' more =>
      cases hparent.symm.trans hparent'
      rw [ih more]

/-- Every type of a row has a row of its own, the rest of that row. -/
theorem Ascent.exists_suffix (ascent : target.Ascent chain) (hmem : reference ∈ chain) :
    ∃ rest, reference.Ascent rest ∧ rest <:+ chain := by
  induction ascent with
  | top hcaps hparent =>
    obtain rfl := List.mem_singleton.1 hmem
    exact ⟨_, .top hcaps hparent, List.suffix_refl _⟩
  | step hcaps hparent more ih =>
    rcases List.mem_cons.1 hmem with rfl | hmem
    · exact ⟨_, .step hcaps hparent more, List.suffix_refl _⟩
    · obtain ⟨rest, hrest, hsuffix⟩ := ih hmem
      exact ⟨rest, hrest, hsuffix.trans (List.suffix_cons _ _)⟩

theorem Ascent.suffix {above : List LoadedType} (ascent : target.Ascent chain)
    (ascent' : reference.Ascent above) (hmem : reference ∈ chain) : above <:+ chain := by
  obtain ⟨rest, hrest, hsuffix⟩ := ascent.exists_suffix hmem
  rwa [ascent'.unique hrest]

/-- What the rest of a row has a slot for, the row has. -/
theorem Slot.of_suffix {above : List LoadedType} (slot : Slot key above) (h : above <:+ chain) :
    Slot key chain := by
  rcases slot with ⟨type, hmem, hdeclares⟩ | ⟨type, hmem, hlisted⟩
  · exact Or.inl ⟨type, h.subset hmem, hdeclares⟩
  · exact Or.inr ⟨type, h.subset hmem, hlisted⟩

/-- What one unit declares, its copies declare. -/
theorem SameUnit.instanceMember? {copy : LoadedType} (h : copy.SameUnit reference)
    (key : MemberKey) : copy.unit.instanceMember? key = reference.unit.instanceMember? key := by
  rw [sameUnit_iff.1 h]

/-- A member that is declared where a row stands for is in a slot of the row, unless it is declared
by a capability and is no default. -/
theorem StandsFor.slot {declarer : LoadedType} (stands : StandsFor chain declarer)
    (declares : (declarer.unit.instanceMember? key).isSome = true)
    (visible : (∃ type ∈ chain, type.SameUnit declarer) ∨
      (declarer.unit.memberOfKind? .default key).isSome = true) : Slot key chain := by
  have onRow : ∀ type ∈ chain, type.SameUnit declarer → Slot key chain := fun type hmem hsame =>
    Or.inl ⟨type, hmem, by rw [hsame.instanceMember?, declares]⟩
  rcases visible with ⟨type, hmem, hsame⟩ | hdefault
  · exact onRow type hmem hsame
  · obtain ⟨type, hmem, hsame | ⟨capability, hlisted, hsame⟩⟩ := stands
    · exact onRow type hmem hsame
    · exact Or.inr ⟨type, hmem, capability, hlisted, by rw [sameUnit_iff.1 hsame, hdefault]⟩

/-- A default is an instance member. -/
theorem isSome_instanceMember?_of_default {unit : CodeUnit}
    (h : (unit.memberOfKind? .default key).isSome = true) :
    (unit.instanceMember? key).isSome = true := by
  obtain ⟨member, hdefault⟩ := Option.isSome_iff_exists.1 h
  obtain ⟨hmember, hkind⟩ := CodeUnit.memberOfKind?_eq_some_iff.1 hdefault
  exact Option.isSome_iff_exists.2
    ⟨member, CodeUnit.instanceMember?_eq_some_iff.2 ⟨hmember, by rw [hkind]; rfl⟩⟩

/-- Whether a type is beside a row: its unit is off the row, but a type of the row lists it, and it
declares no default under the key. -/
structure Beside (key : MemberKey) (chain : List LoadedType) (type : LoadedType) : Prop where
  off_row : ∀ other ∈ chain, ¬ other.SameUnit type
  listed : ∃ lister ∈ chain, ∃ capability ∈ lister.listed, capability.SameUnit type
  no_default : type.unit.memberOfKind? .default key = none

/-- Whether a row has a type only as a copy: the unit is on the row, but loaded through another home,
and it declares nothing itself under the key. -/
structure Copied (key : MemberKey) (chain : List LoadedType) (type : LoadedType) : Prop where
  off_row : type ∉ chain
  copy : ∃ other ∈ chain, other.SameUnit type
  undeclared : type.unit.instanceMember? key = none

theorem StandsFor.beside (stands : StandsFor chain reference)
    (off_row : ∀ other ∈ chain, ¬ other.SameUnit reference)
    (no_default : ¬ (reference.unit.memberOfKind? .default key).isSome = true) :
    Beside key chain reference := by
  obtain ⟨lister, hmem, hsame | hlisted⟩ := stands
  · exact absurd hsame (off_row lister hmem)
  · exact ⟨off_row, ⟨lister, hmem, hlisted⟩, Option.not_isSome_iff_eq_none.1 no_default⟩

/-- Where a row stands for a type that declares a member, and has no slot for it, the type is beside
the row. -/
theorem StandsFor.beside_of_not_slot {declarer : LoadedType} (stands : StandsFor chain declarer)
    (declares : (declarer.unit.instanceMember? key).isSome = true) (noSlot : ¬ Slot key chain) :
    Beside key chain declarer :=
  stands.beside
    (fun other hmem hsame => noSlot (stands.slot declares (Or.inl ⟨other, hmem, hsame⟩)))
    fun hdefault => noSlot (stands.slot declares (Or.inr hdefault))

/-- Where a row stands for a type whose own row has a slot, and has none itself, the type is beside
the row, or the row has it as a copy only. -/
theorem StandsFor.beside_or_copied {above : List LoadedType} (stands : StandsFor chain reference)
    (ascent : target.Ascent chain) (ascent' : reference.Ascent above) (slot : Slot key above)
    (noSlot : ¬ Slot key chain) : Beside key chain reference ∨ Copied key chain reference := by
  have undeclared : (∃ other ∈ chain, other.SameUnit reference) →
      reference.unit.instanceMember? key = none := fun onRow =>
    Option.not_isSome_iff_eq_none.1 fun declares => noSlot (stands.slot declares (Or.inl onRow))
  by_cases onRow : ∃ other ∈ chain, other.SameUnit reference
  · -- with its own home, the reference would bring the slot of its own row along
    exact Or.inr ⟨fun hmem => noSlot (slot.of_suffix (ascent.suffix ascent' hmem)), onRow,
      undeclared onRow⟩
  · refine Or.inl (stands.beside (fun other hmem hsame => onRow ⟨other, hmem, hsame⟩) ?_)
    exact fun hdefault =>
      noSlot (stands.slot (isSome_instanceMember?_of_default hdefault) (Or.inr hdefault))

end LoadedType

namespace Resolver

open LoadedType

variable {resolver : Resolver} {target reference declarer : LoadedType} {key : MemberKey}
  {type via : QualifiedName} {dispatch : Dispatch} {held : Option LoadedType}
  {chain above : List LoadedType} {hops hops' : Nat}

/-! ## Factory calls -/

/-- Without a slot on the type that the instance is held as, the call fails there. -/
theorem bind_factory_of_not_slot (hvia : resolver.caller.load via = .ok reference)
    (ascent : reference.Ascent above) (short : above.length ≤ resolver.maxHops + 1)
    (noSlot : ¬ Slot key above) :
    resolver.bind target key (.factory via) = .error (reference.noSuchMember key) := by
  have hloadIn : loadIn resolver.caller via = .ok reference := Except.mapError_eq_ok_iff.2 hvia
  rw [bind, hloadIn, Except.ok_bind, hasSlot_of_not_slot ascent short noSlot]
  rfl

/-- Where a member lies may be refused, but not because there is no member. -/
theorem originOn_ne_noSuchMember {hit : Hit} (owner : QualifiedName) (member signature : String) :
    originOn key chain hit ≠ .error (.noSuchMember owner member signature) := by
  intro h
  rw [originOn] at h
  by_cases hdepth : 0 < hit.depth
  · rw [if_pos hdepth] at h
    cases h
  · rw [if_neg hdepth] at h
    cases hshadowed : firstHit? key 0 chain.tail with
    | some shadowed =>
      rw [hshadowed] at h
      cases h
    | none =>
      rw [hshadowed] at h
      dsimp only at h
      split at h <;> cases h

/-- A call on an instance for which capabilities may answer finds no member only if the row of the
instance has no slot. -/
theorem InstanceCall.not_slot_of_bind
    (call : resolver.InstanceCall key dispatch held true) (ascent : target.Ascent chain)
    (short : chain.length ≤ resolver.maxHops + 1) {owner : QualifiedName}
    {member signature : String}
    (h : resolver.bind target key dispatch = .error (.noSuchMember owner member signature)) :
    ¬ Slot key chain := by
  obtain ⟨hbody, hopen⟩ := bind_of_ascent call ascent short
  by_cases hanswers : ∃ hit body, firstHit? key 0 chain = some hit ∧ hit.member.body = some body
  · -- a body that is found answers, unless it overrides nothing
    obtain ⟨hit, body, hhit, hbodied⟩ := hanswers
    rw [hbody hit body hhit hbodied] at h
    cases horigin : originOn key chain hit with
    | ok origin =>
      rw [horigin, Except.ok_bind, call.conclude_eq] at h
      cases h
    | error error =>
      rw [horigin] at h
      cases h
      exact absurd horigin (originOn_ne_noSuchMember owner member signature)
  · -- otherwise the defaults decide: one answers, several are ambiguous, and with none the error
    -- depends on whether there is an abstract member
    have habstract : ∀ hit, firstHit? key 0 chain = some hit → hit.member.body = none := by
      intro hit hhit
      cases hbodied : hit.member.body with
      | none => rfl
      | some body => exact absurd ⟨hit, body, hhit, hbodied⟩ hanswers
    obtain ⟨hsingle, hseveral, hnone⟩ := hopen habstract
    match hdefaults : defaultsOn key chain with
    | [] =>
      rw [hnone (Or.inr hdefaults)] at h
      cases hhit : firstHit? key 0 chain with
      | none => exact not_slot_iff.2 ⟨hhit, hdefaults⟩
      | some hit =>
        rw [hhit] at h
        cases h
    | [hit] =>
      obtain ⟨body, -, hbind⟩ := hsingle hit rfl hdefaults
      rw [hbind] at h
      cases h
    | first :: second :: rest =>
      rw [hseveral rfl (by simp [hdefaults])] at h
      cases h

/-- Without a slot on the row of the instance, no member is found. An abstract member of the row
that no default stands in for is reported as such. -/
theorem InstanceCall.bind_of_no_defaults
    (call : resolver.InstanceCall key dispatch held true) (ascent : target.Ascent chain)
    (short : chain.length ≤ resolver.maxHops + 1) (hdefaults : defaultsOn key chain = []) :
    (firstHit? key 0 chain = none →
      resolver.bind target key dispatch = .error (target.noSuchMember key)) ∧
    (∀ hit, firstHit? key 0 chain = some hit → hit.member.body = none →
      resolver.bind target key dispatch = .error (.abstractMember hit.owner.name key.name)) := by
  obtain ⟨-, hopen⟩ := bind_of_ascent call ascent short
  constructor
  · intro hhit
    rw [(hopen (by simp [hhit])).2.2 (Or.inr hdefaults), hhit]
    rfl
  · intro hit hhit habstract
    have hall : ∀ other, firstHit? key 0 chain = some other → other.member.body = none := by
      intro other hother
      cases hhit.symm.trans hother
      exact habstract
    rw [(hopen hall).2.2 (Or.inr hdefaults), hhit]
    rfl

/-- What a factory call comes to in terms of slots, for an instance that can be held as the
reference and a member that the reference, or a type it can be held as itself, declares. If the row
of the reference has no slot for it, the call fails there, and the declaring type is beside that
row: a listed capability whose member is no default. Otherwise, if the row of the instance has no
slot, the call fails on the instance. Then the reference is beside its row, or it is there as a copy
only, and what the copy refers to is loaded through another home. In all other cases some member is
found. An abstract one is reported as such where no default stands in for it. -/
theorem resolve_factory_of_slots (hload : resolver.space.load type = .ok target)
    (hvia : resolver.caller.load via = .ok reference)
    (ascent : target.Ascent chain) (short : chain.length ≤ resolver.maxHops + 1)
    (ascent' : reference.Ascent above) (short' : above.length ≤ resolver.maxHops + 1)
    (held : target.isAssignable reference hops = .ok true)
    (extends' : reference.isAssignable declarer hops' = .ok true)
    (declares : (declarer.unit.instanceMember? key).isSome = true) :
    (¬ Slot key above →
      resolver.resolve ⟨type, key, .factory via⟩ = .error (reference.noSuchMember key) ∧
        Beside key above declarer) ∧
    (Slot key above → ¬ Slot key chain →
      resolver.resolve ⟨type, key, .factory via⟩ = .error (target.noSuchMember key) ∧
        (Beside key chain reference ∨ Copied key chain reference)) ∧
    (Slot key above → Slot key chain → ∀ owner member signature,
      resolver.resolve ⟨type, key, .factory via⟩ ≠
        .error (.noSuchMember owner member signature)) ∧
    (Slot key above → defaultsOn key chain = [] → ∀ hit, firstHit? key 0 chain = some hit →
      hit.member.body = none → resolver.resolve ⟨type, key, .factory via⟩ =
        .error (.abstractMember hit.owner.name key.name)) := by
  have hbind : resolver.resolve ⟨type, key, .factory via⟩ =
      resolver.bind target key (.factory via) := resolve_of_load hload
  rw [hbind]
  have stands : StandsFor chain reference := standsFor_of_assignableFrom ascent held
  have stands' : StandsFor above declarer := standsFor_of_assignableFrom ascent' extends'
  have call : Slot key above →
      resolver.InstanceCall key (.factory via) (some reference) true := fun slot =>
    .factory (Except.mapError_eq_ok_iff.2 hvia) (hasSlot_of_slot ascent' short' slot)
  refine ⟨?_, ?_, ?_, ?_⟩
  · intro noSlot
    exact ⟨bind_factory_of_not_slot hvia ascent' short' noSlot,
      stands'.beside_of_not_slot declares noSlot⟩
  · intro slot noSlot
    obtain ⟨hhit, hdefaults⟩ := not_slot_iff.1 noSlot
    exact ⟨((call slot).bind_of_no_defaults ascent short hdefaults).1 hhit,
      stands.beside_or_copied ascent ascent' slot noSlot⟩
  · intro slot slot' owner member signature h
    exact (call slot).not_slot_of_bind ascent short h slot'
  · intro slot hdefaults
    exact ((call slot).bind_of_no_defaults ascent short hdefaults).2

end Resolver

/-! ## Abstract members of capabilities -/

namespace Hollow

/-- The abstract member of the capability. -/
def run : MemberKey := ⟨"run", ⟨[]⟩⟩

/-- The abstract member of the class. -/
def walk : MemberKey := ⟨"walk", ⟨[]⟩⟩

/-- A capability that leaves its member open. -/
def api : CodeUnit where
  id := ⟨0, ⟨"Api"⟩, .interface, none, [], [⟨run, .abstract, none⟩]⟩
  valid := Declaration.fault?_eq_none_iff.1 (by decide)

/-- A class that lists the capability and declares nothing. -/
def impl : CodeUnit where
  id := ⟨0, ⟨"Impl"⟩, .concreteClass, none, [⟨"Api"⟩], []⟩
  valid := Declaration.fault?_eq_none_iff.1 (by decide)

/-- A class that lists the capability and leaves a member of its own open. -/
def skeleton : CodeUnit where
  id := ⟨0, ⟨"Skeleton"⟩, .abstractClass, none, [⟨"Api"⟩], [⟨walk, .abstract, none⟩]⟩
  valid := Declaration.fault?_eq_none_iff.1 (by decide)

/-- A class that implements the member of the capability, but not the one of its parent. -/
def frame : CodeUnit where
  id :=
    ⟨0, ⟨"Frame"⟩, .concreteClass, some ⟨"Skeleton"⟩, [], [⟨run, .virtual, some (.transfer "F")⟩]⟩
  valid := Declaration.fault?_eq_none_iff.1 (by decide)

/-- The namespace of all four. -/
def space : Namespace :=
  .root ⟨0, "hollow", .isolated, ⟨[api, impl, skeleton, frame], by decide⟩, 2⟩

/-- What calls are resolved against. -/
def resolver : Resolver := .ofNamespace space

theorem ascent : LoadedType.Ascent ⟨frame, space⟩ [⟨frame, space⟩, ⟨skeleton, space⟩] :=
  .step rfl rfl (.top rfl rfl)

theorem ascent' : LoadedType.Ascent ⟨skeleton, space⟩ [⟨skeleton, space⟩] := .top rfl rfl

end Hollow

/-- The abstract member of the parent is found on the instance and reported. -/
theorem Resolver.abstractMember_hollow :
    Hollow.resolver.resolve ⟨⟨"Frame"⟩, Hollow.walk, .factory ⟨"Skeleton"⟩⟩ =
      .error (.abstractMember ⟨"Skeleton"⟩ "walk") := by
  have slot : LoadedType.Slot Hollow.walk [⟨Hollow.skeleton, Hollow.space⟩] :=
    Or.inl ⟨_, List.mem_singleton_self _, rfl⟩
  exact (resolve_factory_of_slots rfl rfl Hollow.ascent (by decide) Hollow.ascent' (by decide)
    (show LoadedType.isAssignable _ _ 2 = _ from rfl)
    (show LoadedType.isAssignable ⟨Hollow.skeleton, Hollow.space⟩
      ⟨Hollow.skeleton, Hollow.space⟩ 2 = _ from rfl) rfl).2.2.2 slot rfl _ rfl rfl

namespace Relay

/-- A class that lies in both layers as one unit. -/
def link : CodeUnit := Fork.unit "Link" .concreteClass (some ⟨"Top"⟩) [] [] (by decide)

/-- The parent that the upper layer gives it. -/
def bare : CodeUnit := Fork.unit "Top" .concreteClass none [] [] (by decide)

/-- The parent that the lower layer gives it. -/
def full : CodeUnit :=
  Fork.unit "Top" .concreteClass none [] [⟨Hollow.run, .virtual, some (.transfer "F")⟩] (by decide)

/-- A class of the upper layer below it. -/
def base : CodeUnit := Fork.unit "Base" .concreteClass (some ⟨"Link"⟩) [] [] (by decide)

/-- A class of the lower layer below that. -/
def leaf : CodeUnit := Fork.unit "Leaf" .concreteClass (some ⟨"Base"⟩) [] [] (by decide)

/-- The upper layer. -/
def upper : Namespace := .root ⟨1, "upper", .isolated, ⟨[link, bare, base], by decide⟩, 8⟩

/-- The lower layer, which asks itself first. -/
def lower : Namespace := .child ⟨0, "lower", .childFirst, ⟨[link, full, leaf], by decide⟩, 8⟩ upper

end Relay

/-- The row of the instance goes through the copy in the upper layer, and so past the member that
the lower layer puts above the reference. -/
example : LoadedType.isAssignable ⟨Relay.leaf, Relay.lower⟩ ⟨Relay.link, Relay.lower⟩ 8 = .ok true ∧
    LoadedType.hasSlot ⟨Relay.link, Relay.lower⟩ Hollow.run 8 = .ok true ∧
    (Resolver.ofNamespace Relay.lower).resolve ⟨⟨"Leaf"⟩, Hollow.run, .factory ⟨"Link"⟩⟩ =
      .error (.noSuchMember ⟨"Leaf"⟩ "run" "()") := ⟨rfl, rfl, rfl⟩

/-- The abstract member of the capability is declared by a type that both references can be held as,
and everything loads. Where nothing implements it the instance is said not to have it, and where the
instance implements it the reference is. -/
theorem Resolver.noSuchMember_hollow :
    (LoadedType.Ascent ⟨Hollow.impl, Hollow.space⟩ [⟨Hollow.impl, Hollow.space⟩] ∧
      LoadedType.Ascent ⟨Hollow.api, Hollow.space⟩ [⟨Hollow.api, Hollow.space⟩] ∧
      LoadedType.Ascent ⟨Hollow.frame, Hollow.space⟩
        [⟨Hollow.frame, Hollow.space⟩, ⟨Hollow.skeleton, Hollow.space⟩] ∧
      LoadedType.Ascent ⟨Hollow.skeleton, Hollow.space⟩ [⟨Hollow.skeleton, Hollow.space⟩]) ∧
    (LoadedType.isAssignable ⟨Hollow.impl, Hollow.space⟩ ⟨Hollow.api, Hollow.space⟩ 2 = .ok true ∧
      LoadedType.isAssignable ⟨Hollow.frame, Hollow.space⟩ ⟨Hollow.skeleton, Hollow.space⟩ 2 =
        .ok true ∧
      LoadedType.isAssignable ⟨Hollow.skeleton, Hollow.space⟩ ⟨Hollow.api, Hollow.space⟩ 2 =
        .ok true ∧
      (Hollow.api.instanceMember? Hollow.run).isSome = true) ∧
    Hollow.resolver.resolve ⟨⟨"Impl"⟩, Hollow.run, .factory ⟨"Api"⟩⟩ =
      .error (.noSuchMember ⟨"Impl"⟩ "run" "()") ∧
    Hollow.resolver.resolve ⟨⟨"Frame"⟩, Hollow.run, .factory ⟨"Skeleton"⟩⟩ =
      .error (.noSuchMember ⟨"Skeleton"⟩ "run" "()") :=
  ⟨⟨.top rfl rfl, .top rfl rfl, Hollow.ascent, Hollow.ascent'⟩, ⟨rfl, rfl, rfl, rfl⟩, rfl, rfl⟩

end Linkage
