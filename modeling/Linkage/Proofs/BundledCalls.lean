import Linkage.Proofs.BundledScripts
import Linkage.Proofs.FactorySlots
import Linkage.Proofs.Passing

/-!
# Calls of bundled members

What a scenario asks for is bound on the called class of a family. `Bundled.Supplied` says where the
types of the family come from: one namespace supplies the class with its parent and its capability,
and one, which may be another, supplies the two types that both families share. Nothing else about
the namespaces matters. The class then stands at the foot of a row of three (`Supplied.ascent`), and
every form of calling is answered under the tag of the family (`Supplied.answers`).

The one request that can fail is for the static member of the capability, which needs handles on
such members (`Supplied.resolve_interfaceStatic`).
-/

namespace Linkage

/-- Whether a request is answered by a body that transfers under a tag, with a given receiver. -/
def Resolver.Answers (resolver : Resolver) (request : Request) (tag : String)
    (receiver : Option Receiver) : Prop :=
  ∃ symbol, resolver.resolve request = .ok symbol ∧ symbol.body = .transfer tag ∧
    symbol.receiver = receiver

namespace Bundled

open LoadedType

/-- Whether a namespace supplies a family. The called class, its parent and its capability are at
`home`, under one mark. The shared types are at `base`, under a mark that may be another one. -/
structure Supplied (space home base : Namespace) (collision : Bool) (mark baseMark : Mark) :
    Prop where
  called : space.load (Plan.bundled (targets collision).type) =
    .ok ⟨calledClass collision mark, home⟩
  capability : space.load (Plan.bundled (targets collision).capability) =
    .ok ⟨capability collision mark, home⟩
  parent_above : home.load (Plan.bundled (targets collision).parent) =
    .ok ⟨parentClass collision mark, home⟩
  capability_above : home.load (Plan.bundled (targets collision).capability) =
    .ok ⟨Bundled.capability collision mark, home⟩
  interface_above : home.load (Plan.bundled "ICommonInterface") =
    .ok ⟨sharedInterface baseMark, base⟩
  class_above : home.load (Plan.bundled "PCommon") = .ok ⟨sharedClass baseMark, base⟩

/-- Whether the caller of a resolver has the shared types at hand, so that it can hold instances as
them. -/
structure Held (resolver : Resolver) (callerMark : Mark) : Prop where
  interface_loads : resolver.caller.load (Plan.bundled "ICommonInterface") =
    .ok ⟨sharedInterface callerMark, resolver.caller⟩
  class_loads : resolver.caller.load (Plan.bundled "PCommon") =
    .ok ⟨sharedClass callerMark, resolver.caller⟩

/-- The called class and what is above it. -/
def row (home base : Namespace) (collision : Bool) (mark baseMark : Mark) : List LoadedType :=
  [⟨calledClass collision mark, home⟩, ⟨parentClass collision mark, home⟩,
    ⟨sharedClass baseMark, base⟩]

/-- The receiver that a form of calling needs. -/
def receiver? (called : LoadedType) (caller : Namespace) (callerMark : Mark) :
    CallForm → Option Receiver
  | .static | .interfaceStatic => none
  | .factoryInterface => some ⟨called, some ⟨sharedInterface callerMark, caller⟩⟩
  | .factoryExtend => some ⟨called, some ⟨sharedClass callerMark, caller⟩⟩
  | _ => some ⟨called, none⟩

variable {space home base : Namespace} {collision : Bool} {mark baseMark callerMark : Mark}
  {resolver : Resolver} {name : String} {dispatch : Dispatch} {reference : Option LoadedType}
  {withDefaults : Bool}

/-- A request for a type that loads is bound on that type. -/
theorem resolve_asking {type : QualifiedName} {target : LoadedType}
    (hload : resolver.space.load type = .ok target) :
    resolver.resolve (Plan.asking type name dispatch) =
      resolver.bind target ⟨name, .canonical⟩ dispatch :=
  Resolver.resolve_of_load hload

/-! ## The row of the called class -/

namespace Supplied

theorem capabilities (supplied : Supplied space home base collision mark baseMark) :
    LoadedType.capabilities ⟨calledClass collision mark, home⟩ =
      .ok [⟨Bundled.capability collision mark, home⟩, ⟨sharedInterface baseMark, base⟩] := by
  refine Except.mapM_cons_eq_ok_iff.2 ⟨_, _, supplied.capability_above, ?_, rfl⟩
  exact Except.mapM_cons_eq_ok_iff.2 ⟨_, _, supplied.interface_above, rfl, rfl⟩

theorem ascent (supplied : Supplied space home base collision mark baseMark) :
    Ascent ⟨calledClass collision mark, home⟩ (row home base collision mark baseMark) := by
  have hparent : LoadedType.parent ⟨calledClass collision mark, home⟩ =
      .ok (some ⟨parentClass collision mark, home⟩) :=
    Except.map_eq_ok_iff.2 ⟨_, supplied.parent_above, rfl⟩
  have hclass : LoadedType.parent ⟨parentClass collision mark, home⟩ =
      .ok (some ⟨sharedClass baseMark, base⟩) :=
    Except.map_eq_ok_iff.2 ⟨_, supplied.class_above, rfl⟩
  exact .step supplied.capabilities hparent (.step rfl hclass (.top rfl rfl))

/-- What an instance of the called class can be held as. -/
theorem standsFor_iff (supplied : Supplied space home base collision mark baseMark)
    {reference : LoadedType} :
    StandsFor (row home base collision mark baseMark) reference ↔
      reference.unit = calledClass collision mark ∨
        reference.unit = Bundled.capability collision mark ∨
        reference.unit = sharedInterface baseMark ∨ reference.unit = parentClass collision mark ∨
        reference.unit = sharedClass baseMark := by
  have hparent : listed ⟨parentClass collision mark, home⟩ = [] := rfl
  have hclass : listed ⟨sharedClass baseMark, base⟩ = [] := rfl
  rw [row, standsFor_cons, standsFor_cons, standsFor_singleton, Shows, Shows, Shows,
    listed_of_capabilities supplied.capabilities, hparent, hclass]
  simp [sameUnit_iff, eq_comm, or_assoc]

/-! ## Members that answer -/

/-- The first hit on the row answers, if the form of calling accepts the place where it lies. -/
theorem answers_of_firstHit (supplied : Supplied resolver.space home base collision mark baseMark)
    (hops : 2 ≤ resolver.maxHops) {hit : Hit} {origin : Origin}
    (call : resolver.InstanceCall ⟨name, .canonical⟩ dispatch reference withDefaults)
    (hhit : firstHit? ⟨name, .canonical⟩ 0 (row home base collision mark baseMark) = some hit)
    (hbody : hit.member.body = some (.transfer mark.tag))
    (horigin : originOn ⟨name, .canonical⟩ (row home base collision mark baseMark) hit = .ok origin)
    (hinherited : dispatch = .inherited → origin.isInherited = true)
    (hoverridden : dispatch = .overridden → origin.isOverridden = true) :
    resolver.Answers (Plan.asking (Plan.bundled (targets collision).type) name dispatch) mark.tag
      (some ⟨⟨calledClass collision mark, home⟩, reference⟩) := by
  refine ⟨InstanceBinding.symbol ⟨hit, .transfer mark.tag, origin⟩ dispatch _ reference, ?_, rfl,
    rfl⟩
  -- only the two forms that ask for a place can still refuse a hit with a body
  have hbind := (Resolver.bind_of_ascent call supplied.ascent (Nat.succ_le_succ hops)).1 hit _ hhit
    hbody
  rw [resolve_asking supplied.called, hbind, horigin, Except.ok_bind, Resolver.conclude, if_neg,
    if_neg]
  · rintro ⟨hdispatch, hplace⟩
    rw [hoverridden hdispatch] at hplace
    cases hplace
  · rintro ⟨hdispatch, hplace⟩
    rw [hinherited hdispatch] at hplace
    cases hplace

/-- A member of the called class that shadows nothing answers. -/
theorem answers_declared (supplied : Supplied resolver.space home base collision mark baseMark)
    (hops : 2 ≤ resolver.maxHops)
    (call : resolver.InstanceCall ⟨name, .canonical⟩ dispatch reference withDefaults)
    (hmember : (calledClass collision mark).instanceMember? ⟨name, .canonical⟩ =
      some (transferring .virtual name mark.tag))
    (hparent : (parentClass collision mark).instanceMember? ⟨name, .canonical⟩ = none)
    (hshared : (sharedClass baseMark).instanceMember? ⟨name, .canonical⟩ = none)
    (hinherited : dispatch ≠ .inherited) (hoverridden : dispatch ≠ .overridden) :
    resolver.Answers (Plan.asking (Plan.bundled (targets collision).type) name dispatch) mark.tag
      (some ⟨⟨calledClass collision mark, home⟩, reference⟩) := by
  have hnone : firstHit? ⟨name, .canonical⟩ 0 (row home base collision mark baseMark).tail = none :=
    firstHit?_eq_none_iff.2 (by simp [row, hparent, hshared])
  have horigin : originOn ⟨name, .canonical⟩ (row home base collision mark baseMark)
      ⟨⟨calledClass collision mark, home⟩, transferring .virtual name mark.tag, 0⟩ =
        .ok .declared := by
    rw [originOn, hnone]
    rfl
  exact supplied.answers_of_firstHit hops call (firstHit?_cons_of_some hmember) rfl horigin
    (absurd · hinherited) (absurd · hoverridden)

/-- The member of the called class that shadows the one of the shared class answers. -/
theorem answers_overriding (supplied : Supplied resolver.space home base collision mark baseMark)
    (hops : 2 ≤ resolver.maxHops)
    (call : resolver.InstanceCall ⟨"commonExtendedTransfer", .canonical⟩ dispatch reference
      withDefaults) (hinherited : dispatch ≠ .inherited) :
    resolver.Answers (Plan.asking (Plan.bundled (targets collision).type) "commonExtendedTransfer"
      dispatch) mark.tag (some ⟨⟨calledClass collision mark, home⟩, reference⟩) := by
  have hhit : firstHit? ⟨"commonExtendedTransfer", .canonical⟩ 0
      (row home base collision mark baseMark) = some ⟨⟨calledClass collision mark, home⟩,
        transferring .override "commonExtendedTransfer" mark.tag, 0⟩ := by
    cases collision <;> rfl
  have horigin : originOn ⟨"commonExtendedTransfer", .canonical⟩
      (row home base collision mark baseMark) ⟨⟨calledClass collision mark, home⟩,
        transferring .override "commonExtendedTransfer" mark.tag, 0⟩ =
          .ok (.overridden (Plan.bundled "PCommon")) := by
    cases collision <;> rfl
  exact supplied.answers_of_firstHit hops call hhit rfl horigin (absurd · hinherited)
    fun _ => rfl

/-- The member of the parent is inherited. -/
theorem answers_inherited (supplied : Supplied resolver.space home base collision mark baseMark)
    (hops : 2 ≤ resolver.maxHops) :
    resolver.Answers (Plan.asking (Plan.bundled (targets collision).type) "extendedTransfer"
      .inherited) mark.tag (some ⟨⟨calledClass collision mark, home⟩, none⟩) := by
  have hhit : firstHit? ⟨"extendedTransfer", .canonical⟩ 0
      (row home base collision mark baseMark) = some ⟨⟨parentClass collision mark, home⟩,
        transferring .virtual "extendedTransfer" mark.tag, 1⟩ := by
    cases collision <;> rfl
  exact supplied.answers_of_firstHit hops .inherited hhit rfl rfl (fun _ => rfl) nofun

/-- Where no class declares the member, the default of the capability answers. -/
theorem answers_default (supplied : Supplied resolver.space home base false mark baseMark)
    (hops : 2 ≤ resolver.maxHops) :
    resolver.Answers (Plan.asking (Plan.bundled (targets false).type) "interTransfer"
      .interfaceDefault) mark.tag (some ⟨⟨calledClass false mark, home⟩, none⟩) := by
  have hoffers : offers ⟨"interTransfer", .canonical⟩ 0 (row home base false mark baseMark) =
      [⟨⟨Bundled.capability false mark, home⟩,
        transferring .default "interTransfer" mark.tag, 0⟩] := by
    rw [row, offers_cons supplied.capabilities]
    rfl
  have hdefaults : defaultsOn ⟨"interTransfer", .canonical⟩ (row home base false mark baseMark) =
      [⟨⟨Bundled.capability false mark, home⟩,
        transferring .default "interTransfer" mark.tag, 0⟩] := by
    rw [defaultsOn, hoffers]
    rfl
  -- no class of the row declares the member, so nothing found on the way up comes first
  have hnone : firstHit? ⟨"interTransfer", .canonical⟩ 0 (row home base false mark baseMark) =
      none := rfl
  have hopen : ∀ hit, firstHit? ⟨"interTransfer", .canonical⟩ 0
      (row home base false mark baseMark) = some hit → hit.member.body = none := by
    intro hit hhit
    cases hnone.symm.trans hhit
  obtain ⟨body, hbody, hbind⟩ := ((Resolver.bind_of_ascent .interfaceDefault supplied.ascent
    (Nat.succ_le_succ hops)).2 hopen).1 _ rfl hdefaults
  cases hbody
  exact ⟨_, (resolve_asking supplied.called).trans hbind, rfl, rfl⟩

theorem answers_static (supplied : Supplied resolver.space home base collision mark baseMark) :
    resolver.Answers (Plan.asking (Plan.bundled (targets collision).type) "staticTransfer" .static)
      mark.tag none := by
  have hmember : (calledClass collision mark).memberOfKind? .static ⟨"staticTransfer", .canonical⟩ =
      some (transferring .static "staticTransfer" mark.tag) := by
    cases collision <;> rfl
  refine ⟨⟨⟨calledClass collision mark, home⟩, .static,
    transferring .static "staticTransfer" mark.tag, .transfer mark.tag, .declared, none⟩, ?_, rfl,
    rfl⟩
  rw [resolve_asking supplied.called, Resolver.bind, hmember]
  rfl

/-- The static member of the capability answers where such members can be held. -/
theorem resolve_interfaceStatic
    (supplied : Supplied resolver.space home base collision mark baseMark) :
    resolver.resolve (Plan.asking (Plan.bundled (targets collision).capability)
      "staticInterfaceTransfer" .interfaceStatic) =
        if resolver.interfaceStaticHandles then
          .ok ⟨⟨Bundled.capability collision mark, home⟩, .interfaceStatic,
            transferring .interfaceStatic "staticInterfaceTransfer" mark.tag, .transfer mark.tag,
            .declared, none⟩
        else .error (.unsupportedInterfaceStatic (Plan.bundled (targets collision).capability)
          "staticInterfaceTransfer") := by
  have hmember : (Bundled.capability collision mark).memberOfKind? .interfaceStatic
      ⟨"staticInterfaceTransfer", .canonical⟩ =
        some (transferring .interfaceStatic "staticInterfaceTransfer" mark.tag) := by
    cases collision <;> rfl
  rw [resolve_asking supplied.capability, Resolver.bind, hmember]
  rfl

end Supplied

/-! ## Forms of calling -/

theorem Held.callInterface (held : Held resolver callerMark) :
    resolver.InstanceCall ⟨"commonInterTransfer", .canonical⟩
      (.factory (Plan.bundled "ICommonInterface"))
      (some ⟨sharedInterface callerMark, resolver.caller⟩) true := by
  have slot : Slot ⟨"commonInterTransfer", .canonical⟩
      [⟨sharedInterface callerMark, resolver.caller⟩] :=
    Or.inl ⟨_, List.mem_singleton_self _, rfl⟩
  exact .factory (Except.mapError_eq_ok_iff.2 held.interface_loads)
    (hasSlot_of_slot (.top rfl rfl) (Nat.succ_le_succ (Nat.zero_le _)) slot)

theorem Held.callClass (held : Held resolver callerMark) :
    resolver.InstanceCall ⟨"commonExtendedTransfer", .canonical⟩
      (.factory (Plan.bundled "PCommon")) (some ⟨sharedClass callerMark, resolver.caller⟩)
      true := by
  have slot : Slot ⟨"commonExtendedTransfer", .canonical⟩
      [⟨sharedClass callerMark, resolver.caller⟩] :=
    Or.inl ⟨_, List.mem_singleton_self _, rfl⟩
  exact .factory (Except.mapError_eq_ok_iff.2 held.class_loads)
    (hasSlot_of_slot (.top rfl rfl) (Nat.succ_le_succ (Nat.zero_le _)) slot)

/-- Every form of calling is answered under the tag of the family, on the receiver that it needs,
unless it needs handles that there are none of. -/
theorem Supplied.answers (supplied : Supplied resolver.space home base collision mark baseMark)
    (hops : 2 ≤ resolver.maxHops) (held : Held resolver callerMark) (loader : LoaderKind)
    (hasParent : Bool) (form : CallForm)
    (handles : form = .interfaceStatic → resolver.interfaceStaticHandles = true) :
    resolver.Answers (Plan.ofScenario ⟨loader, collision, hasParent, form⟩).request mark.tag
      (receiver? ⟨calledClass collision mark, home⟩ resolver.caller callerMark form) := by
  cases form with
  | virtual =>
    have hmember : (calledClass collision mark).instanceMember? ⟨"virtTransfer", .canonical⟩ =
        some (transferring .virtual "virtTransfer" mark.tag) := by
      cases collision <;> rfl
    exact supplied.answers_declared hops .virtual hmember rfl rfl nofun nofun
  | static => exact supplied.answers_static
  | extended => exact supplied.answers_inherited hops
  | interface =>
    -- in one family the class declares the member itself, in the other its capability does
    cases collision with
    | true => exact supplied.answers_declared hops .interfaceDefault rfl rfl rfl nofun nofun
    | false => exact supplied.answers_default hops
  | interfaceStatic =>
    exact ⟨_, supplied.resolve_interfaceStatic.trans (if_pos (handles rfl)), rfl, rfl⟩
  | factoryInterface =>
    have hmember : (calledClass collision mark).instanceMember?
        ⟨"commonInterTransfer", .canonical⟩ =
          some (transferring .virtual "commonInterTransfer" mark.tag) := by
      cases collision <;> rfl
    exact supplied.answers_declared hops held.callInterface hmember rfl rfl nofun nofun
  | factoryExtend => exact supplied.answers_overriding hops held.callClass nofun
  | overridden => exact supplied.answers_overriding hops .overridden nofun

/-! ## Receivers -/

/-- The receiver that a form of calling needs can be had, if the caller's shared types are those of
the class or do not matter. -/
theorem Supplied.fit (supplied : Supplied space home base collision mark baseMark) {maxHops : Nat}
    (hops : 2 ≤ maxHops) {caller : Namespace} {form : CallForm}
    (same : form.isFactory = true → baseMark = callerMark) :
    ∀ receiver ∈ receiver? ⟨calledClass collision mark, home⟩ caller callerMark form,
      receiver.Fit maxHops := by
  have hheld : ∀ reference : LoadedType, form.isFactory = true →
      (reference.unit = sharedInterface callerMark ∨ reference.unit = sharedClass callerMark) →
      isAssignable ⟨calledClass collision mark, home⟩ reference maxHops = .ok true := by
    intro reference hfactory hreference
    obtain rfl := same hfactory
    refine (isAssignable_eq_true_iff supplied.ascent (Nat.succ_le_succ hops)).2
      (supplied.standsFor_iff.2 ?_)
    rcases hreference with hinterface | hclass
    · exact Or.inr (Or.inr (Or.inl hinterface))
    · exact Or.inr (Or.inr (Or.inr (Or.inr hclass)))
  intro receiver hreceiver
  cases form with
  | static => cases hreceiver
  | interfaceStatic => cases hreceiver
  | factoryInterface =>
    cases hreceiver
    exact ⟨rfl, by rintro _ ⟨⟩; exact hheld _ rfl (Or.inl rfl)⟩
  | factoryExtend =>
    cases hreceiver
    exact ⟨rfl, by rintro _ ⟨⟩; exact hheld _ rfl (Or.inr rfl)⟩
  | _ =>
    cases hreceiver
    exact ⟨rfl, nofun⟩

/-- An instance cannot be held by a caller whose shared types are other units than those of its
class. -/
theorem Supplied.not_fit (supplied : Supplied space home base collision mark baseMark)
    {maxHops : Nat} (hops : 2 ≤ maxHops) {caller : Namespace} {form : CallForm}
    (hmark : mark.stamp ≠ callerMark.stamp) (hbase : baseMark.stamp ≠ callerMark.stamp)
    (hfactory : form.isFactory = true) :
    ∃ receiver ∈ receiver? ⟨calledClass collision mark, home⟩ caller callerMark form,
      ¬ receiver.Fit maxHops := by
  -- no type that the instance can stand for has the stamp of the caller's types
  have hapart : ∀ reference : LoadedType, reference.unit.id.stamp = callerMark.stamp →
      isAssignable ⟨calledClass collision mark, home⟩ reference maxHops ≠ .ok true := by
    intro reference hstamp h
    have stands := (isAssignable_eq_true_iff supplied.ascent (Nat.succ_le_succ hops)).1 h
    rcases supplied.standsFor_iff.1 stands with hunit | hunit | hunit | hunit | hunit
    · exact hmark (by rw [← hstamp, hunit]; rfl)
    · exact hmark (by rw [← hstamp, hunit]; rfl)
    · exact hbase (by rw [← hstamp, hunit]; rfl)
    · exact hmark (by rw [← hstamp, hunit]; rfl)
    · exact hbase (by rw [← hstamp, hunit]; rfl)
  cases form with
  | factoryInterface => exact ⟨_, rfl, fun fit => hapart _ rfl (fit.assignable _ rfl)⟩
  | factoryExtend => exact ⟨_, rfl, fun fit => hapart _ rfl (fit.assignable _ rfl)⟩
  | _ => cases hfactory

end Bundled

end Linkage
