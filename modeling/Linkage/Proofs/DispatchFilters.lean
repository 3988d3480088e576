import Linkage.Proofs.SearchOrder
import Linkage.Proofs.Shadowing

/-!
# Ways of calling as filters

The ways of calling a member on an instance share one binding. A plain call makes it from the types
on the way up alone. A call that lets capabilities answer comes to the same, except where the plain
one has found no member or an abstract one (`LoadedType.unanswered_or_bindInstance_eq`). The calls
that ask for an inherited or for a shadowing member keep the plain binding or refuse it by its
origin, and a call through a reference either fails at that reference or is the call that lets
capabilities answer, on an instance that is held otherwise.

`Resolver.OneBinding` collects these relations, for failures as well as for symbols, and
`Resolver.oneBinding` proves them of every resolver, type and member.
-/

namespace Linkage

/-- The failures of a call that has found no body: there is no member, or an abstract one. -/
inductive BindingError.Unanswered : BindingError → Prop where
  | noSuchMember (owner : QualifiedName) (member signature : String) :
      Unanswered (.noSuchMember owner member signature)
  | abstractMember (owner : QualifiedName) (member : String) :
      Unanswered (.abstractMember owner member)

/-- Whether a way of calling keeps a plain binding of an origin. -/
def Dispatch.keeps : Dispatch → Origin → Bool
  | inherited, origin => origin.isInherited
  | overridden, origin => origin.isOverridden
  | _, _ => true

/-- No origin is that of an inherited and of a shadowing member. -/
theorem Origin.not_isInherited_and_isOverridden (origin : Origin) :
    ¬ (origin.isInherited = true ∧ origin.isOverridden = true) := by
  cases origin <;> simp [isInherited, isOverridden]

namespace Symbol

/-- The same binding, as the answer to another way of calling. -/
def under (symbol : Symbol) (dispatch : Dispatch) : Symbol :=
  { symbol with dispatch := dispatch }

/-- The same binding, for an instance that is held as another type. -/
def heldAs (symbol : Symbol) (via : QualifiedName) (reference : LoadedType) : Symbol :=
  { symbol with
    dispatch := .factory via
    receiver := symbol.receiver.map fun receiver => ⟨receiver.runtime, some reference⟩ }

/-- Whether two symbols are one binding: they differ at most in the way of calling and in what the
instance is held as. -/
structure SameBinding (symbol other : Symbol) : Prop where
  owner_eq : symbol.owner = other.owner
  member_eq : symbol.member = other.member
  body_eq : symbol.body = other.body
  origin_eq : symbol.origin = other.origin

variable {symbol other : Symbol}

theorem SameBinding.symm (h : symbol.SameBinding other) : other.SameBinding symbol :=
  ⟨h.owner_eq.symm, h.member_eq.symm, h.body_eq.symm, h.origin_eq.symm⟩

theorem SameBinding.trans {third : Symbol} (h : symbol.SameBinding other)
    (h' : other.SameBinding third) : symbol.SameBinding third :=
  ⟨h.owner_eq.trans h'.owner_eq, h.member_eq.trans h'.member_eq, h.body_eq.trans h'.body_eq,
    h.origin_eq.trans h'.origin_eq⟩

theorem heldAs_sameBinding (symbol : Symbol) (via : QualifiedName) (reference : LoadedType) :
    (symbol.heldAs via reference).SameBinding symbol :=
  ⟨rfl, rfl, rfl, rfl⟩

end Symbol

namespace LoadedType

variable {target : LoadedType} {key : MemberKey} {maxHops : Nat} {binding : InstanceBinding}

/-! ## Bindings with and without defaults -/

/-- A failure with nothing found to call says that no body was found. -/
theorem unanswered_unanswered (target : LoadedType) (key : MemberKey) (found : Option Hit) :
    (target.unanswered key found).Unanswered := by
  cases found with
  | none => exact .noSuchMember _ _ _
  | some hit => exact .abstractMember _ _

/-- Capabilities are not asked where the types on the way up answer. -/
theorem bindInstance_of_virtual (h : target.bindInstance key false maxHops = .ok binding)
    (withDefaults : Bool) : target.bindInstance key withDefaults maxHops = .ok binding := by
  rcases findInChain_cases target key maxHops with
    ⟨error, hfound⟩ | ⟨hit, body, hfound, hbody⟩ | ⟨found, hfound, hbodiless⟩
  · rw [bindInstance_of_error hfound] at h
    cases h
  · rw [bindInstance_of_found hfound hbody] at h ⊢
    exact h
  · -- without a body there is no answer that could be kept
    rw [bindInstance_of_bodiless hfound hbodiless] at h
    cases h

/-- Capabilities are asked only where no body was found; every other failure stays. -/
theorem unanswered_or_bindInstance_eq {error : BindingError}
    (h : target.bindInstance key false maxHops = .error error) :
    error.Unanswered ∨ target.bindInstance key true maxHops = .error error := by
  rcases findInChain_cases target key maxHops with
    ⟨cause, hfound⟩ | ⟨hit, body, hfound, hbody⟩ | ⟨found, hfound, hbodiless⟩
  · rw [bindInstance_of_error hfound] at h ⊢
    exact Or.inr h
  · rw [bindInstance_of_found hfound hbody] at h ⊢
    exact Or.inr h
  · rw [bindInstance_of_bodiless hfound hbodiless] at h
    cases h
    exact Or.inl (unanswered_unanswered target key found)

end LoadedType

namespace Resolver

/-- How the answers to the ways of calling one member of one type on an instance hang together. -/
structure OneBinding (resolver : Resolver) (type : QualifiedName) (key : MemberKey) : Prop where
  /-- Where a plain call is bound, capabilities change nothing. -/
  default_of_virtual : ∀ plain, resolver.resolve ⟨type, key, .virtual⟩ = .ok plain →
    resolver.resolve ⟨type, key, .interfaceDefault⟩ = .ok (plain.under .interfaceDefault)
  /-- Where it fails they change nothing either, unless no body was found. -/
  default_of_error : ∀ error, resolver.resolve ⟨type, key, .virtual⟩ = .error error →
    error.Unanswered ∨ resolver.resolve ⟨type, key, .interfaceDefault⟩ = .error error
  /-- A call for an inherited member keeps the plain bindings of that origin. -/
  inherited_iff : ∀ symbol, resolver.resolve ⟨type, key, .inherited⟩ = .ok symbol ↔
    ∃ plain, resolver.resolve ⟨type, key, .virtual⟩ = .ok plain ∧
      plain.origin.isInherited = true ∧ symbol = plain.under .inherited
  /-- A call for a shadowing member keeps the plain bindings of that origin. -/
  overridden_iff : ∀ symbol, resolver.resolve ⟨type, key, .overridden⟩ = .ok symbol ↔
    ∃ plain, resolver.resolve ⟨type, key, .virtual⟩ = .ok plain ∧
      plain.origin.isOverridden = true ∧ symbol = plain.under .overridden
  /-- Both hand on the failures of the plain call. -/
  filters_of_error : ∀ error, resolver.resolve ⟨type, key, .virtual⟩ = .error error →
    resolver.resolve ⟨type, key, .inherited⟩ = .error error ∧
      resolver.resolve ⟨type, key, .overridden⟩ = .error error
  /-- And both refuse the bindings of other origins by name. -/
  filters_of_origin : ∀ plain, resolver.resolve ⟨type, key, .virtual⟩ = .ok plain →
    (plain.origin.isInherited = false →
      resolver.resolve ⟨type, key, .inherited⟩ = .error (.notInherited type key.name)) ∧
    (plain.origin.isOverridden = false →
      resolver.resolve ⟨type, key, .overridden⟩ = .error (.notOverridden type key.name))
  /-- No member is both inherited and shadowing. -/
  not_both : ∀ inherited overridden,
    ¬ (resolver.resolve ⟨type, key, .inherited⟩ = .ok inherited ∧
      resolver.resolve ⟨type, key, .overridden⟩ = .ok overridden)
  /-- A call through a reference is the call that lets capabilities answer. -/
  default_of_factory : ∀ via symbol, resolver.resolve ⟨type, key, .factory via⟩ = .ok symbol →
    ∃ reference plain, resolver.caller.load via = .ok reference ∧
      resolver.resolve ⟨type, key, .interfaceDefault⟩ = .ok plain ∧
      symbol = plain.heldAs via reference
  /-- So it does not matter which reference it goes through. -/
  factories_agree : ∀ via via' symbol symbol',
    resolver.resolve ⟨type, key, .factory via⟩ = .ok symbol →
    resolver.resolve ⟨type, key, .factory via'⟩ = .ok symbol' → symbol.SameBinding symbol'

variable {resolver : Resolver} {type : QualifiedName} {target : LoadedType} {key : MemberKey}
  {symbol : Symbol}

/-! ## Calls on a loaded type -/

/-- A binding is concluded exactly where the way of calling keeps its origin. -/
theorem conclude_eq_ok_iff {dispatch : Dispatch} {held : Option LoadedType}
    {binding : InstanceBinding} :
    conclude target key dispatch held binding = .ok symbol ↔
      dispatch.keeps binding.origin = true ∧ binding.symbol dispatch target held = symbol := by
  cases dispatch with
  | inherited => cases h : binding.origin.isInherited <;> simp [conclude, Dispatch.keeps, h]
  | overridden => cases h : binding.origin.isOverridden <;> simp [conclude, Dispatch.keeps, h]
  | _ => simp [conclude, Dispatch.keeps]

/-- A call that capabilities may not answer is the plain call with a condition on the origin. -/
theorem bind_filter_iff {dispatch : Dispatch}
    (call : resolver.InstanceCall key dispatch none false) :
    resolver.bind target key dispatch = .ok symbol ↔
      ∃ plain, resolver.bind target key .virtual = .ok plain ∧
        dispatch.keeps plain.origin = true ∧ symbol = plain.under dispatch := by
  rw [call.bind_eq, InstanceCall.bind_eq .virtual]
  constructor
  · intro h
    obtain ⟨binding, hbinding, h⟩ := Except.bind_eq_ok_iff.1 h
    obtain ⟨hkeeps, rfl⟩ := conclude_eq_ok_iff.1 h
    refine ⟨binding.symbol .virtual target none, ?_, hkeeps, rfl⟩
    exact Except.bind_eq_ok_iff.2 ⟨binding, hbinding, conclude_eq_ok_iff.2 ⟨rfl, rfl⟩⟩
  · rintro ⟨plain, h, hkeeps, rfl⟩
    obtain ⟨binding, hbinding, h⟩ := Except.bind_eq_ok_iff.1 h
    obtain ⟨-, rfl⟩ := conclude_eq_ok_iff.1 h
    exact Except.bind_eq_ok_iff.2 ⟨binding, hbinding, conclude_eq_ok_iff.2 ⟨hkeeps, rfl⟩⟩

/-- A plain call fails as the binding does. -/
theorem bind_virtual_eq_error_iff {error : BindingError} :
    resolver.bind target key .virtual = .error error ↔
      target.bindInstance key false resolver.maxHops = .error error := by
  rw [InstanceCall.bind_eq .virtual]
  cases target.bindInstance key false resolver.maxHops <;> simp [conclude]

/-- Other calls that capabilities may not answer hand on its failures. -/
theorem bind_filter_of_error {dispatch : Dispatch} {error : BindingError}
    (call : resolver.InstanceCall key dispatch none false)
    (h : resolver.bind target key .virtual = .error error) :
    resolver.bind target key dispatch = .error error := by
  rw [bind_virtual_eq_error_iff] at h
  rw [call.bind_eq, h, Except.error_bind]

/-- A plain call that is bound is bound in the same way where capabilities may answer. -/
theorem bind_interfaceDefault_of_virtual (h : resolver.bind target key .virtual = .ok symbol) :
    resolver.bind target key .interfaceDefault = .ok (symbol.under .interfaceDefault) := by
  rw [InstanceCall.bind_eq .virtual] at h
  obtain ⟨binding, hbinding, h⟩ := Except.bind_eq_ok_iff.1 h
  obtain ⟨-, rfl⟩ := conclude_eq_ok_iff.1 h
  rw [InstanceCall.bind_eq .interfaceDefault, Except.bind_eq_ok_iff]
  exact ⟨binding, LoadedType.bindInstance_of_virtual hbinding true,
    conclude_eq_ok_iff.2 ⟨rfl, rfl⟩⟩

/-- A call through a reference that is bound has loaded the reference, and it is the call that lets
capabilities answer. -/
theorem bind_factory_eq_ok {via : QualifiedName}
    (h : resolver.bind target key (.factory via) = .ok symbol) :
    ∃ reference plain, resolver.caller.load via = .ok reference ∧
      resolver.bind target key .interfaceDefault = .ok plain ∧
      symbol = plain.heldAs via reference := by
  obtain ⟨held, withDefaults, call⟩ := exists_instanceCall rfl h
  rw [call.bind_eq] at h
  obtain ⟨binding, hbinding, h⟩ := Except.bind_eq_ok_iff.1 h
  obtain ⟨-, rfl⟩ := conclude_eq_ok_iff.1 h
  cases call with
  | @factory _ reference loads slot =>
    refine ⟨reference, binding.symbol .interfaceDefault target none,
      Except.mapError_eq_ok_iff.1 loads, ?_, rfl⟩
    rw [InstanceCall.bind_eq .interfaceDefault, Except.bind_eq_ok_iff]
    exact ⟨binding, hbinding, conclude_eq_ok_iff.2 ⟨rfl, rfl⟩⟩

/-- A call that asks for an origin refuses the other ones. -/
theorem bind_filter_of_origin (h : resolver.bind target key .virtual = .ok symbol) :
    (symbol.origin.isInherited = false →
      resolver.bind target key .inherited = .error (.notInherited target.name key.name)) ∧
    (symbol.origin.isOverridden = false →
      resolver.bind target key .overridden = .error (.notOverridden target.name key.name)) := by
  rw [InstanceCall.bind_eq .virtual] at h
  obtain ⟨binding, hbinding, h⟩ := Except.bind_eq_ok_iff.1 h
  obtain ⟨-, rfl⟩ := conclude_eq_ok_iff.1 h
  rw [InstanceCall.bind_eq .inherited, InstanceCall.bind_eq .overridden, hbinding, Except.ok_bind,
    Except.ok_bind]
  constructor
  · intro horigin
    rw [conclude, if_pos ⟨rfl, horigin⟩]
  · intro horigin
    rw [conclude, if_neg (by simp), if_pos ⟨rfl, horigin⟩]

/-! ## Requests -/

/-- A type that cannot be loaded fails every request in the same way. -/
theorem oneBinding_of_not_loaded {error : LoadError}
    (h : resolver.space.load type = .error error) : resolver.OneBinding type key := by
  have hall : ∀ dispatch, resolver.resolve ⟨type, key, dispatch⟩ = .error (.load error) := by
    intro dispatch
    rw [resolve, loadIn, h]
    rfl
  constructor <;> simp [hall]

/-- On a type that is loaded, the ways of calling are compared by what the type binds. -/
theorem oneBinding_of_loaded (h : resolver.space.load type = .ok target) :
    resolver.OneBinding type key := by
  have hall : ∀ dispatch,
      resolver.resolve ⟨type, key, dispatch⟩ = resolver.bind target key dispatch :=
    fun dispatch => resolve_of_load h
  have hname : target.name = type := (LoadedType.within_of_load h).2
  constructor <;> simp only [hall]
  case default_of_virtual => exact fun plain => bind_interfaceDefault_of_virtual
  case default_of_error =>
    intro error hplain
    rcases LoadedType.unanswered_or_bindInstance_eq (bind_virtual_eq_error_iff.1 hplain) with
      hnone | hdefault
    · exact Or.inl hnone
    · rw [InstanceCall.bind_eq .interfaceDefault, hdefault]
      exact Or.inr rfl
  case inherited_iff => exact fun symbol => bind_filter_iff .inherited
  case overridden_iff => exact fun symbol => bind_filter_iff .overridden
  case filters_of_error =>
    exact fun error hplain =>
      ⟨bind_filter_of_error .inherited hplain, bind_filter_of_error .overridden hplain⟩
  case filters_of_origin =>
    intro plain hplain
    rw [← hname]
    exact bind_filter_of_origin hplain
  case not_both =>
    -- both would keep one and the same plain binding
    rintro inherited overridden ⟨habove, hshadowing⟩
    obtain ⟨plain, hplain, hkept, -⟩ := (bind_filter_iff .inherited).1 habove
    obtain ⟨plain', hplain', hkept', -⟩ := (bind_filter_iff .overridden).1 hshadowing
    cases hplain.symm.trans hplain'
    exact Origin.not_isInherited_and_isOverridden plain.origin ⟨hkept, hkept'⟩
  case default_of_factory => exact fun via symbol => bind_factory_eq_ok
  case factories_agree =>
    intro via via' symbol symbol' hsymbol hsymbol'
    obtain ⟨reference, plain, -, hplain, rfl⟩ := bind_factory_eq_ok hsymbol
    obtain ⟨reference', plain', -, hplain', rfl⟩ := bind_factory_eq_ok hsymbol'
    cases hplain.symm.trans hplain'
    exact (plain.heldAs_sameBinding via reference).trans
      (plain.heldAs_sameBinding via' reference').symm

/-- The ways of calling a member on an instance are one binding with filters, for every resolver,
type and member. -/
theorem oneBinding (resolver : Resolver) (type : QualifiedName) (key : MemberKey) :
    resolver.OneBinding type key := by
  cases h : resolver.space.load type with
  | error error => exact oneBinding_of_not_loaded h
  | ok target => exact oneBinding_of_loaded h

end Resolver

/-! ## Two references -/

/-- The shadowing class is bound alike through the class it shadows and through itself, and the
class below the stray one inherits what a plain call finds there. -/
theorem Resolver.oneBinding_stray :
    (Resolver.ofNamespace Stray.space).resolve ⟨⟨"Heir"⟩, Stray.key, .overridden⟩ =
        .ok (Stray.shadowing.under .overridden) ∧
      (Resolver.ofNamespace Stray.space).resolve ⟨⟨"Heir"⟩, Stray.key, .interfaceDefault⟩ =
        .ok (Stray.shadowing.under .interfaceDefault) ∧
      (Resolver.ofNamespace Stray.space).resolve ⟨⟨"Follower"⟩, Stray.key, .inherited⟩ =
        .ok (Stray.idle.under .inherited) ∧
      (Stray.shadowing.heldAs ⟨"Root"⟩ ⟨Stray.root, Stray.space⟩).SameBinding
        (Stray.shadowing.heldAs ⟨"Heir"⟩ ⟨Stray.heir, Stray.space⟩) := by
  have heir := oneBinding (Resolver.ofNamespace Stray.space) ⟨"Heir"⟩ Stray.key
  have follower := oneBinding (Resolver.ofNamespace Stray.space) ⟨"Follower"⟩ Stray.key
  refine ⟨?_, ?_, ?_, ?_⟩
  · exact (heir.overridden_iff _).2 ⟨Stray.shadowing, Stray.resolve_heir, rfl, rfl⟩
  · exact heir.default_of_virtual _ Stray.resolve_heir
  · exact (follower.inherited_iff _).2 ⟨Stray.idle, Stray.resolve_follower, rfl, rfl⟩
  · exact heir.factories_agree ⟨"Root"⟩ ⟨"Heir"⟩ _ _ rfl rfl

end Linkage
