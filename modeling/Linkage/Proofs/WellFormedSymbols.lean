import Linkage.Proofs.SelfShadowing

/-!
# Well-formed symbols

The parts of a symbol belong together. Its member is the one that the owner declares under the key
asked for and its body is the body of that member; what kind the member is of, where its owner lies
and which receiver goes with it depend on the way of calling. `Symbol.WellFormed` names all of it,
for every way of calling.

A declaration has a body for every member that is not abstract, so few of the places that look for a
body can miss one. The calls on a type itself never do, and neither does a default that is chosen
(`LoadedType.chooseDefault_ne_abstractMember`). An abstract member is reported just where it is the
first instance member on the way up from the type of the instance and no capability is asked, or none
supplies a default (`LoadedType.bindInstance_eq_abstractMember_iff`).
`Resolver.wellFormed_of_resolve` puts both together for whole requests.
-/

namespace Linkage

namespace LoadedType

/-- Whether a type declares an instance member under a key and is the first one to do so on the way
up from another type. -/
inductive FirstDeclarer (key : MemberKey) : LoadedType → LoadedType → Prop where
  | here {type : LoadedType} (declares : (type.unit.instanceMember? key).isSome = true) :
      FirstDeclarer key type type
  | above {type top : LoadedType} (silent : type.unit.instanceMember? key = none)
      (nearest : NearestAbove key type top) : FirstDeclarer key type top

/-- Whether a type may supply the members of an instance: it is the type of the instance or lies
above it, or is a capability that one of these lists. -/
def Supplier (target owner : LoadedType) : Prop :=
  ∃ type, (type = target ∨ target.Above type) ∧ (owner = type ∨ owner ∈ type.listed)

end LoadedType

/-- A symbol whose parts belong together, as the answer to a request that a resolver has bound on a
loaded type. -/
structure Symbol.WellFormed (symbol : Symbol) (resolver : Resolver) (request : Request)
    (target : LoadedType) : Prop where
  dispatch_eq : symbol.dispatch = request.dispatch
  member_declared : symbol.owner.unit.member? request.member = some symbol.member
  member_key : symbol.member.key = request.member
  body_declared : symbol.member.body = some symbol.body
  of_static : request.dispatch = .static →
    symbol.owner = target ∧ symbol.member.kind = .static
  of_interfaceStatic : request.dispatch = .interfaceStatic →
    symbol.owner = target ∧ target.unit.isInterface = true ∧
      symbol.member.kind = .interfaceStatic
  of_instance : request.dispatch.needsReceiver = true →
    target.Supplier symbol.owner ∧ symbol.member.kind.isInstance = true ∧
      symbol.member.kind ≠ .abstract
  receiver_eq_none_iff : symbol.receiver = none ↔
    request.dispatch = .static ∨ request.dispatch = .interfaceStatic
  receiver_runtime : ∀ receiver ∈ symbol.receiver, receiver.runtime = target
  reference_isSome_iff : ∀ receiver ∈ symbol.receiver,
    (receiver.reference.isSome = true ↔ ∃ via, request.dispatch = .factory via)
  reference_loaded : ∀ via, request.dispatch = .factory via → ∃ reference,
    resolver.caller.load via = .ok reference ∧ symbol.receiver = some ⟨target, some reference⟩

namespace LoadedType

variable {start current target : LoadedType} {key : MemberKey} {hit : Hit}
  {limit left depth maxHops : Nat}

/-! ## Where walks end -/

/-- The first walk ends at the first declaring type. -/
theorem firstDeclarer_of_findInChain (h : target.findInChain key maxHops = .ok (some hit)) :
    FirstDeclarer key target hit.owner := by
  cases hmember : target.unit.instanceMember? key with
  | some member =>
    rw [findInChain, findFrom_of_member hmember] at h
    cases h
    exact .here (Option.isSome_iff_exists.2 ⟨member, hmember⟩)
  | none =>
    rcases findFrom_eq_some h with ⟨hfound, -⟩ | ⟨above, fewer, hparent, -, hmore⟩
    · cases hmember.symm.trans hfound
    · exact .above hmember (nearestAbove_of_findFrom hparent hmore)

/-- The first walk only fails where something cannot be loaded, or where it is cut. -/
theorem exists_load_of_findFrom {error : BindingError}
    (h : findFrom start limit key left depth current = .error error) :
    ∃ cause, error = .load cause := by
  induction left using Nat.strongRecOn generalizing depth current with
  | ind left ih =>
    rw [findFrom.eq_def] at h
    dsimp only at h
    split at h
    · cases h
    · split at h
      · cases h
        exact ⟨_, rfl⟩
      · cases h
      · split at h
        · cases h
          exact ⟨_, rfl⟩
        · next fewer => exact ih fewer (Nat.lt_succ_self fewer) h

/-- So does the second one. -/
theorem exists_load_of_collectFrom {found : List Hit} {error : BindingError}
    (h : collectFrom start limit key left depth found current = .error error) :
    ∃ cause, error = .load cause := by
  induction left using Nat.strongRecOn generalizing depth found current with
  | ind left ih =>
    rw [collectFrom.eq_def] at h
    dsimp only at h
    split at h
    · cases h
      exact ⟨_, rfl⟩
    · split at h
      · cases h
        exact ⟨_, rfl⟩
      · cases h
      · split at h
        · cases h
          exact ⟨_, rfl⟩
        · next fewer => exact ih fewer (Nat.lt_succ_self fewer) h

/-- The search for a slot only fails as the two walks do. -/
theorem exists_load_of_hasSlot {error : BindingError}
    (h : target.hasSlot key maxHops = .error error) : ∃ cause, error = .load cause := by
  rw [hasSlot] at h
  cases hfound : target.findInChain key maxHops with
  | error error =>
    rw [hfound] at h
    cases h
    exact exists_load_of_findFrom hfound
  | ok found =>
    rw [hfound, Except.ok_bind] at h
    cases found with
    | some hit => cases h
    | none =>
      cases hhits : target.collectDefaults key maxHops with
      | error error =>
        rw [hhits] at h
        cases h
        exact exists_load_of_collectFrom hhits
      | ok hits =>
        rw [hhits] at h
        cases h

/-- A collected default is a default member of a capability that is listed on the way up. -/
theorem supplier_of_collectDefaults {hits : List Hit}
    (h : target.collectDefaults key maxHops = .ok hits) (hmem : hit ∈ hits) :
    target.Supplier hit.owner ∧ hit.owner.unit.memberOfKind? .default key = some hit.member := by
  rcases mem_of_collectFrom h hmem with hnone | ⟨type, capabilities, place, htype, hcaps, hoffer⟩
  · cases hnone
  · obtain ⟨hcapability, hdefault⟩ := mem_supplied hoffer
    exact ⟨⟨type, htype, Or.inr (listed_of_capabilities hcaps ▸ hcapability)⟩, hdefault⟩

/-! ## Bodies that are missing -/

/-- The choice among defaults never misses a body. -/
theorem chooseDefault_ne_abstractMember (target : LoadedType) (key : MemberKey) (maxHops : Nat)
    (owner : QualifiedName) (member : String) :
    target.chooseDefault key maxHops ≠ .error (.abstractMember owner member) := by
  intro h
  rw [chooseDefault] at h
  cases hhits : target.collectDefaults key maxHops with
  | error error =>
    obtain ⟨cause, rfl⟩ := exists_load_of_collectFrom hhits
    rw [hhits] at h
    cases h
  | ok hits =>
    rw [hhits, Except.ok_bind] at h
    rcases hits with _ | ⟨hit, _ | ⟨second, rest⟩⟩
    · cases h
    · obtain ⟨-, hdefault⟩ := supplier_of_collectDefaults hhits List.mem_cons_self
      obtain ⟨body, hbody⟩ := CodeUnit.exists_body_of_memberOfKind? hdefault (by decide)
      simp only [bodyOf, hbody, Except.ok_bind, reduceCtorEq] at h
    · cases h

/-- Nothing is chosen exactly where nothing was collected. -/
theorem chooseDefault_eq_none_iff :
    target.chooseDefault key maxHops = .ok none ↔ target.collectDefaults key maxHops = .ok [] := by
  rw [chooseDefault]
  cases target.collectDefaults key maxHops with
  | error error => simp
  | ok hits =>
    rw [Except.ok_bind]
    rcases hits with _ | ⟨hit, _ | ⟨second, rest⟩⟩
    · simp
    · simp only [Except.ok.injEq, List.cons_ne_nil, iff_false]
      intro h
      obtain ⟨body, -, h⟩ := Except.bind_eq_ok_iff.1 h
      cases h
    · simp

/-- Where a member lies is only refused because something cannot be loaded, or for want of a member
to shadow. -/
theorem load_or_notOverridden_of_originOf {hit : Hit} {error : BindingError}
    (h : target.originOf hit maxHops = .error error) :
    (∃ cause, error = .load cause) ∨
      error = .notOverridden target.name hit.member.key.name := by
  rw [originOf] at h
  split at h
  · cases h
  · cases hparent : target.parent with
    | error cause =>
      rw [hparent] at h
      cases h
      exact Or.inl ⟨cause, rfl⟩
    | ok parent =>
      rw [hparent] at h
      cases parent with
      | none =>
        simp only [Except.ok_bind] at h
        split at h
        · cases h
          exact Or.inr rfl
        · cases h
      | some above =>
        dsimp only at h
        cases hfound : above.findInChain hit.member.key maxHops with
        | error error =>
          rw [hfound] at h
          cases h
          exact Or.inl (exists_load_of_findFrom hfound)
        | ok shadowed =>
          rw [hfound, Except.ok_bind] at h
          cases shadowed with
          | some shadowed => cases h
          | none =>
            dsimp only at h
            split at h
            · cases h
              exact Or.inr rfl
            · cases h

/-- A call on an instance reports an abstract member just where the first instance member on the way
up is abstract, and no capability is asked or none supplies a default. -/
theorem bindInstance_eq_abstractMember_iff {withDefaults : Bool} {owner : QualifiedName}
    {member : String} :
    target.bindInstance key withDefaults maxHops = .error (.abstractMember owner member) ↔
      ∃ hit, target.findInChain key maxHops = .ok (some hit) ∧ hit.member.kind = .abstract ∧
        (withDefaults = true → target.collectDefaults key maxHops = .ok []) ∧
        hit.owner.name = owner ∧ key.name = member := by
  have hkind : ∀ {hit}, target.findInChain key maxHops = .ok (some hit) →
      (hit.member.body = none ↔ hit.member.kind = .abstract) := fun hfound =>
    CodeUnit.body_eq_none_iff_of_member?
      (CodeUnit.instanceMember?_eq_some_iff.1 (place_of_findFrom hfound).1).1
  rcases findInChain_cases target key maxHops with
    ⟨error, hfound⟩ | ⟨hit, body, hfound, hbody⟩ | ⟨found, hfound, hbodiless⟩
  · -- the walk fails in another way
    obtain ⟨cause, rfl⟩ := exists_load_of_findFrom hfound
    simp [bindInstance_of_error hfound, hfound]
  · -- the first member has a body, so it is not abstract
    constructor
    · intro h
      rw [bindInstance_of_found hfound hbody] at h
      rcases load_or_notOverridden_of_originOf (Except.eq_error_of_map_eq_error h) with
        ⟨cause, hload⟩ | hplace
      · cases hload
      · cases hplace
    · rintro ⟨other, hother, habstract, -⟩
      cases hfound.symm.trans hother
      rw [(hkind hfound).2 habstract] at hbody
      cases hbody
  · rw [bindInstance_of_bodiless hfound hbodiless]
    cases found with
    | none =>
      -- no member at all is another failure, whatever the capabilities come to
      simp only [hfound, Except.ok.injEq, reduceCtorEq, false_and, exists_false, iff_false]
      intro h
      cases withDefaults with
      | false => cases h
      | true =>
        rw [if_pos rfl] at h
        cases hchosen : target.chooseDefault key maxHops with
        | error error =>
          rw [hchosen] at h
          cases h
          exact chooseDefault_ne_abstractMember target key maxHops owner member hchosen
        | ok chosen =>
          rw [hchosen] at h
          cases chosen <;> cases h
    | some hit =>
      have habstract := (hkind hfound).1 (hbodiless hit rfl)
      simp only [hfound, Except.ok.injEq, Option.some.injEq, exists_eq_left', habstract, true_and]
      cases withDefaults with
      | false => simp [unanswered]
      | true =>
        simp only [if_true, forall_const]
        rw [← chooseDefault_eq_none_iff]
        cases hchosen : target.chooseDefault key maxHops with
        | error error =>
          simp only [Except.error_bind, Except.error.injEq, reduceCtorEq, false_and, iff_false]
          rintro rfl
          exact chooseDefault_ne_abstractMember target key maxHops owner member hchosen
        | ok chosen => cases chosen <;> simp [unanswered]

/-- A call on a type itself never misses the body of a member that is not abstract. -/
theorem typeSymbol_eq_ok (dispatch : Dispatch) {member : Member} {kind : MemberKind}
    (h : target.unit.memberOfKind? kind key = some member) (concrete : kind ≠ .abstract) :
    ∃ body, member.body = some body ∧
      target.typeSymbol dispatch member = .ok ⟨target, dispatch, member, body, .declared, none⟩ := by
  obtain ⟨body, hbody⟩ := CodeUnit.exists_body_of_memberOfKind? h concrete
  refine ⟨body, hbody, ?_⟩
  rw [typeSymbol, bodyOf, hbody]
  rfl

end LoadedType

namespace Resolver

open LoadedType

variable {resolver : Resolver} {target : LoadedType} {key : MemberKey} {dispatch : Dispatch}
  {request : Request} {symbol : Symbol} {held : Option LoadedType} {withDefaults : Bool}

/-! ## Calls on an instance -/

/-- A call on an instance goes through no reference unless the caller loads one for it. -/
theorem InstanceCall.held_eq (call : resolver.InstanceCall key dispatch held withDefaults) :
    (held = none ∧ ∀ via, dispatch ≠ .factory via) ∨
      ∃ via reference, dispatch = .factory via ∧ held = some reference ∧
        resolver.caller.load via = .ok reference := by
  cases call with
  | @factory via reference loads slot =>
    exact Or.inr ⟨via, reference, rfl, rfl, Except.mapError_eq_ok_iff.1 loads⟩
  | _ => exact Or.inl ⟨rfl, by simp⟩

theorem InstanceCall.needsReceiver_eq_true
    (call : resolver.InstanceCall key dispatch held withDefaults) :
    dispatch.needsReceiver = true := by
  cases call <;> rfl

/-- What is bound on an instance is an instance member with a body, on a type that may supply it. -/
theorem supplier_of_bindInstance {binding : InstanceBinding} {maxHops : Nat}
    (h : target.bindInstance key withDefaults maxHops = .ok binding) :
    target.Supplier binding.hit.owner ∧ binding.hit.member.kind.isInstance = true ∧
      binding.hit.member.kind ≠ .abstract := by
  have hreached := reachedFrom_of_bindInstance h
  have hconcrete : binding.hit.member.kind ≠ .abstract := by
    rw [Ne, ← CodeUnit.body_eq_none_iff_of_member? hreached.hit_reached.member_declared,
      hreached.body_declared]
    simp
  rcases found_or_chosen_of_bindInstance h with ⟨hfound, -⟩ | hchosen
  · obtain ⟨hmember, hplace⟩ := place_of_findFrom hfound
    refine ⟨⟨binding.hit.owner, hplace.imp And.left And.left, Or.inl rfl⟩, ?_, hconcrete⟩
    exact (CodeUnit.instanceMember?_eq_some_iff.1 hmember).2
  · obtain ⟨hits, hhits, hmem, -⟩ := collected_of_chooseDefault hchosen
    obtain ⟨hsupplier, -⟩ := supplier_of_collectDefaults hhits hmem
    refine ⟨hsupplier, ?_, hconcrete⟩
    rw [(default_of_chooseDefault hchosen).1]
    rfl

theorem InstanceCall.wellFormed
    (call : resolver.InstanceCall request.member request.dispatch held withDefaults)
    (h : resolver.bind target request.member request.dispatch = .ok symbol) :
    symbol.WellFormed resolver request target := by
  have hreached := call.reachedFrom h
  rw [call.bind_eq] at h
  obtain ⟨binding, hbinding, h⟩ := Except.bind_eq_ok_iff.1 h
  obtain rfl := symbol_of_conclude h
  have hneeds := call.needsReceiver_eq_true
  have hstatic : request.dispatch ≠ .static := by
    intro hdispatch
    rw [hdispatch] at hneeds
    cases hneeds
  have hinterface : request.dispatch ≠ .interfaceStatic := by
    intro hdispatch
    rw [hdispatch] at hneeds
    cases hneeds
  refine ⟨rfl, hreached.member_declared,
    (CodeUnit.mem_and_key_of_member? hreached.member_declared).2, hreached.body_declared,
    fun hdispatch => absurd hdispatch hstatic, fun hdispatch => absurd hdispatch hinterface,
    fun _ => supplier_of_bindInstance hbinding, ?_, ?_, ?_, ?_⟩
  · simp [InstanceBinding.symbol, hstatic, hinterface]
  · rintro _ ⟨⟩
    rfl
  · rintro _ ⟨⟩
    rcases call.held_eq with ⟨rfl, hplain⟩ | ⟨via, reference, hvia, rfl, -⟩
    · simp [hplain]
    · simp [hvia]
  · intro via hvia
    rcases call.held_eq with ⟨-, hplain⟩ | ⟨other, reference, hother, rfl, hload⟩
    · exact absurd hvia (hplain via)
    · cases hother.symm.trans hvia
      exact ⟨reference, hload, rfl⟩

/-! ## Calls on a type -/

/-- A call on a type itself is bound to a member of the kind it asks for, with its own body. -/
theorem exists_typeSymbol_of_bind (hneeds : dispatch.needsReceiver = false)
    (h : resolver.bind target key dispatch = .ok symbol) :
    ∃ kind member body, target.unit.memberOfKind? kind key = some member ∧
      member.body = some body ∧ symbol = ⟨target, dispatch, member, body, .declared, none⟩ ∧
      (dispatch = .static → kind = .static) ∧
      (dispatch = .interfaceStatic → target.unit.isInterface = true ∧ kind = .interfaceStatic) := by
  cases dispatch with
  | static =>
    rw [bind] at h
    split at h
    · next member hmember =>
      obtain ⟨body, hbody, hsymbol⟩ := typeSymbol_eq_ok .static hmember (by decide)
      cases hsymbol.symm.trans h
      exact ⟨.static, member, body, hmember, hbody, rfl, fun _ => rfl, by simp⟩
    · cases h
  | interfaceStatic =>
    rw [bind] at h
    split at h
    · next hinterface =>
      split at h
      · next member hmember =>
        split at h
        · obtain ⟨body, hbody, hsymbol⟩ := typeSymbol_eq_ok .interfaceStatic hmember (by decide)
          cases hsymbol.symm.trans h
          exact ⟨.interfaceStatic, member, body, hmember, hbody, rfl, by simp,
            fun _ => ⟨hinterface, rfl⟩⟩
        · cases h
      · cases h
    · cases h
  | _ => cases hneeds

theorem wellFormed_of_needsReceiver_eq_false (hneeds : request.dispatch.needsReceiver = false)
    (h : resolver.bind target request.member request.dispatch = .ok symbol) :
    symbol.WellFormed resolver request target := by
  obtain ⟨kind, member, body, hmember, hbody, rfl, hstatic, hinterface⟩ :=
    exists_typeSymbol_of_bind hneeds h
  obtain ⟨hdeclared, hkind⟩ := CodeUnit.memberOfKind?_eq_some_iff.1 hmember
  refine ⟨rfl, hdeclared, (CodeUnit.mem_and_key_of_member? hdeclared).2, hbody, ?_, ?_, ?_, ?_,
    ?_, ?_, ?_⟩
  · exact fun hdispatch => ⟨rfl, hkind.trans (hstatic hdispatch)⟩
  · intro hdispatch
    obtain ⟨hunit, hasked⟩ := hinterface hdispatch
    exact ⟨rfl, hunit, hkind.trans hasked⟩
  · intro hother
    rw [hneeds] at hother
    cases hother
  · cases hdispatch : request.dispatch with
    | static => simp
    | interfaceStatic => simp
    | _ =>
      rw [hdispatch] at hneeds
      cases hneeds
  · rintro _ ⟨⟩
  · rintro _ ⟨⟩
  · intro via hvia
    rw [hvia] at hneeds
    cases hneeds

/-- A call on a type itself never reports an abstract member. -/
theorem bind_ne_abstractMember_of_needsReceiver_eq_false (hneeds : dispatch.needsReceiver = false)
    (owner : QualifiedName) (member : String) :
    resolver.bind target key dispatch ≠ .error (.abstractMember owner member) := by
  intro h
  cases dispatch with
  | static =>
    rw [bind] at h
    split at h
    · next found hfound =>
      obtain ⟨body, -, hsymbol⟩ := typeSymbol_eq_ok .static hfound (by decide)
      cases hsymbol.symm.trans h
    · cases h
  | interfaceStatic =>
    rw [bind] at h
    split at h
    · split at h
      · next found hfound =>
        split at h
        · obtain ⟨body, -, hsymbol⟩ :=
            typeSymbol_eq_ok .interfaceStatic hfound (by decide)
          cases hsymbol.symm.trans h
        · cases h
      · cases h
    · cases h
  | _ => cases hneeds

/-! ## Requests -/

/-- What a call on an instance reports as abstract, the binding rule has reported. -/
theorem InstanceCall.bind_eq_abstractMember_iff
    (call : resolver.InstanceCall key dispatch held withDefaults) {owner : QualifiedName}
    {member : String} :
    resolver.bind target key dispatch = .error (.abstractMember owner member) ↔
      target.bindInstance key withDefaults resolver.maxHops =
        .error (.abstractMember owner member) := by
  rw [call.bind_eq]
  cases target.bindInstance key withDefaults resolver.maxHops with
  | error error => simp
  | ok binding =>
    simp only [Except.ok_bind, reduceCtorEq, iff_false]
    rw [conclude]
    split
    · simp
    · split <;> simp

/-- Loading a name as part of binding only fails as loading does. -/
theorem exists_load_of_loadIn {space : Namespace} {name : QualifiedName} {error : BindingError}
    (h : loadIn space name = .error error) : ∃ cause, error = .load cause := by
  rw [loadIn] at h
  cases hload : space.load name with
  | error cause =>
    rw [hload] at h
    cases h
    exact ⟨cause, rfl⟩
  | ok type =>
    rw [hload] at h
    cases h

/-- A call that reports an abstract member is a call on an instance. -/
theorem exists_instanceCall_of_abstractMember {owner : QualifiedName} {member : String}
    (h : resolver.bind target key dispatch = .error (.abstractMember owner member)) :
    ∃ held withDefaults, resolver.InstanceCall key dispatch held withDefaults := by
  cases hneeds : dispatch.needsReceiver with
  | false => exact absurd h (bind_ne_abstractMember_of_needsReceiver_eq_false hneeds owner member)
  | true =>
    cases dispatch with
    | virtual => exact ⟨none, false, .virtual⟩
    | inherited => exact ⟨none, false, .inherited⟩
    | overridden => exact ⟨none, false, .overridden⟩
    | interfaceDefault => exact ⟨none, true, .interfaceDefault⟩
    | static => cases hneeds
    | interfaceStatic => cases hneeds
    | factory via =>
      -- neither loading the reference nor looking for its slot fails in this way
      rw [bind] at h
      cases hloads : loadIn resolver.caller via with
      | error error =>
        obtain ⟨cause, rfl⟩ := exists_load_of_loadIn hloads
        rw [hloads] at h
        cases h
      | ok reference =>
        rw [hloads, Except.ok_bind] at h
        cases hslot : reference.hasSlot key resolver.maxHops with
        | error error =>
          obtain ⟨cause, rfl⟩ := exists_load_of_hasSlot hslot
          rw [hslot] at h
          cases h
        | ok slot =>
          rw [hslot, Except.ok_bind] at h
          cases slot with
          | true => exact ⟨some reference, true, .factory hloads hslot⟩
          | false => cases h

/-- A request reports an abstract member where the type asked for loads and binding on it does. -/
theorem resolve_eq_abstractMember_iff {owner : QualifiedName} {member : String} :
    resolver.resolve request = .error (.abstractMember owner member) ↔
      ∃ target, resolver.space.load request.type = .ok target ∧
        resolver.bind target request.member request.dispatch =
          .error (.abstractMember owner member) := by
  constructor
  · intro h
    cases hload : loadIn resolver.space request.type with
    | error error =>
      obtain ⟨cause, rfl⟩ := exists_load_of_loadIn hload
      rw [resolve, hload] at h
      cases h
    | ok target =>
      rw [resolve, hload, Except.ok_bind] at h
      exact ⟨target, Except.mapError_eq_ok_iff.1 hload, h⟩
  · rintro ⟨target, hload, h⟩
    rw [resolve_of_load hload, h]

/-- Symbols are well formed, and an abstract member is reported only where it answers a call on an
instance. Whatever a request comes to is made of the table of its owner, as the way of calling
demands. The report of an abstract member is made exactly by the calls on an instance, a call through
a reference only once it has found its slot, where the first instance member on the way up from the
type of the instance is declared abstract and no capability is asked, or none supplies a default. The
choice of a default never makes it. -/
theorem wellFormed_of_resolve (resolver : Resolver) (request : Request) :
    (∀ symbol, resolver.resolve request = .ok symbol → ∃ target,
      resolver.space.load request.type = .ok target ∧ symbol.WellFormed resolver request target) ∧
    (∀ owner member, resolver.resolve request = .error (.abstractMember owner member) ↔
      request.dispatch.needsReceiver = true ∧
      ∃ target held withDefaults hit, resolver.space.load request.type = .ok target ∧
        resolver.InstanceCall request.member request.dispatch held withDefaults ∧
        target.findInChain request.member resolver.maxHops = .ok (some hit) ∧
        FirstDeclarer request.member target hit.owner ∧ hit.member.kind = .abstract ∧
        (withDefaults = true →
          target.collectDefaults request.member resolver.maxHops = .ok []) ∧
        hit.owner.name = owner ∧ request.member.name = member) ∧
    (∀ (target : LoadedType) maxHops owner member,
      target.chooseDefault request.member maxHops ≠ .error (.abstractMember owner member)) := by
  refine ⟨?_, ?_, ?_⟩
  · intro symbol h
    obtain ⟨target, hload, hbind, -⟩ := exists_target_of_resolve h
    refine ⟨target, hload, ?_⟩
    cases hneeds : request.dispatch.needsReceiver with
    | false => exact wellFormed_of_needsReceiver_eq_false hneeds hbind
    | true =>
      obtain ⟨held, withDefaults, call⟩ := exists_instanceCall hneeds hbind
      exact call.wellFormed hbind
  · intro owner member
    rw [resolve_eq_abstractMember_iff]
    constructor
    · rintro ⟨target, hload, hbind⟩
      obtain ⟨held, withDefaults, call⟩ := exists_instanceCall_of_abstractMember hbind
      rw [call.bind_eq_abstractMember_iff, bindInstance_eq_abstractMember_iff] at hbind
      obtain ⟨hit, hfound, habstract, hdefaults, hnames⟩ := hbind
      exact ⟨call.needsReceiver_eq_true, target, held, withDefaults, hit, hload, call, hfound,
        firstDeclarer_of_findInChain hfound, habstract, hdefaults, hnames⟩
    · rintro ⟨-, target, held, withDefaults, hit, hload, call, hfound, -, habstract, hdefaults,
        hnames⟩
      refine ⟨target, hload, ?_⟩
      rw [call.bind_eq_abstractMember_iff, bindInstance_eq_abstractMember_iff]
      exact ⟨hit, hfound, habstract, hdefaults, hnames⟩
  · intro target maxHops owner member
    exact chooseDefault_ne_abstractMember target request.member maxHops owner member

end Resolver

/-! ## Every kind of member -/

namespace Outline

/-- The member that the interface supplies. -/
def draw : MemberKey := ⟨"draw", ⟨[]⟩⟩

/-- The member that belongs to the class and to the interface. -/
def make : MemberKey := ⟨"make", ⟨[]⟩⟩

/-- The member that the class leaves open. -/
def area : MemberKey := ⟨"area", ⟨[]⟩⟩

/-- An interface with a default, and with a member of its own. -/
def shape : CodeUnit :=
  Fork.unit "Shape" .interface none [] [⟨draw, .default, some (.transfer "D")⟩,
    ⟨make, .interfaceStatic, some (.transfer "I")⟩] (by decide)

/-- A class with a member of its own, and with one that it leaves open. -/
def figure : CodeUnit :=
  Fork.unit "Figure" .abstractClass none [⟨"Shape"⟩] [⟨make, .static, some (.transfer "S")⟩,
    ⟨area, .abstract, none⟩] (by decide)

/-- The namespace of both. -/
def space : Namespace :=
  .root ⟨0, "outline", .isolated, ⟨[shape, figure], by decide⟩, 4⟩

/-- A resolver for which members of interfaces can be held. -/
def resolver : Resolver := { Resolver.ofNamespace space with interfaceStaticHandles := true }

/-- A call through a reference, which finds the default of the interface. -/
def supplied : Symbol :=
  ⟨⟨shape, space⟩, .factory ⟨"Shape"⟩, ⟨draw, .default, some (.transfer "D")⟩, .transfer "D",
    .default ⟨"Shape"⟩, some ⟨⟨figure, space⟩, some ⟨shape, space⟩⟩⟩

/-- A call on the class itself. -/
def made : Symbol :=
  ⟨⟨figure, space⟩, .static, ⟨make, .static, some (.transfer "S")⟩, .transfer "S", .declared, none⟩

end Outline

/-- The default is found on an instance held as the interface, the member of the class on the class,
and the open member is reported to every plain call. -/
theorem Resolver.wellFormed_outline :
    (∃ target, Outline.supplied.WellFormed Outline.resolver
      ⟨⟨"Figure"⟩, Outline.draw, .factory ⟨"Shape"⟩⟩ target) ∧
    (∃ target, Outline.made.WellFormed Outline.resolver
      ⟨⟨"Figure"⟩, Outline.make, .static⟩ target) ∧
    Outline.resolver.resolve ⟨⟨"Figure"⟩, Outline.area, .virtual⟩ =
      .error (.abstractMember ⟨"Figure"⟩ "area") := by
  refine ⟨?_, ?_, ?_⟩
  · obtain ⟨target, -, hsupplied⟩ := (wellFormed_of_resolve Outline.resolver
      ⟨⟨"Figure"⟩, Outline.draw, .factory ⟨"Shape"⟩⟩).1 Outline.supplied rfl
    exact ⟨target, hsupplied⟩
  · obtain ⟨target, -, hmade⟩ := (wellFormed_of_resolve Outline.resolver
      ⟨⟨"Figure"⟩, Outline.make, .static⟩).1 Outline.made rfl
    exact ⟨target, hmade⟩
  · refine ((wellFormed_of_resolve Outline.resolver _).2.1 _ _).2 ⟨rfl, ⟨Outline.figure,
      Outline.space⟩, none, false, ⟨⟨Outline.figure, Outline.space⟩, ⟨Outline.area, .abstract, none⟩,
      0⟩, rfl, .virtual, rfl, .here rfl, rfl, by simp, rfl, rfl⟩

end Linkage
