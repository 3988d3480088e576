import Linkage.Call.Invoke
import Linkage.Conformance.Failure
import Linkage.Proofs.Correspondence
import Linkage.Proofs.SearchOrder

/-!
# Relabeled namespaces

The label of a namespace is for messages only. Here a namespace is compared with the same namespace
under another label. What is loaded through the one has a counterpart that is loaded through the
other (`Counterpart`): the same unit of the relabeled namespace, or the very same type if it comes
from a layer above. Counterparts correspond (`Counterpart.correspondence`), so every stage of binding
and of calling comes to the same (`Resolver.resolve_withLabel`, `Caller.invoke_counterpart`).
Failures differ in the label at most.
-/

namespace Linkage

/-! ## Texts and failures -/

/-- Two texts that are the same but for a label: they are made of the same pieces, with the old
label in the one where the new label is in the other. -/
inductive Relabeled (old new : String) : String → String → Prop where
  | same (text : String) : Relabeled old new text text
  | label : Relabeled old new old new
  | append {front front' behind behind' : String} (hfront : Relabeled old new front front')
      (hbehind : Relabeled old new behind behind') :
      Relabeled old new (front ++ behind) (front' ++ behind')

/-- Two failures to load that are the same but for a label. -/
inductive LoadError.Relabeled (old new : String) : LoadError → LoadError → Prop where
  | same (error : LoadError) : Relabeled old new error error
  | notFound (name : QualifiedName) : Relabeled old new (.notFound name old) (.notFound name new)

/-- Two failures to bind that are the same but for a label. -/
inductive BindingError.Relabeled (old new : String) : BindingError → BindingError → Prop where
  | same (error : BindingError) : Relabeled old new error error
  | load {error error' : LoadError} (h : error.Relabeled old new error') :
      Relabeled old new (.load error) (.load error')

/-- Two failures of calls that are the same but for a label. -/
structure CallError.Relabeled (old new : String) (error error' : CallError) : Prop where
  phase : error'.phase = error.phase
  cause : Linkage.Relabeled old new error.cause error'.cause

section Failures

variable {old new : String}

theorem LoadError.Relabeled.message {error error' : LoadError}
    (h : error.Relabeled old new error') :
    Linkage.Relabeled old new error.message error'.message := by
  cases h with
  | same => exact .same _
  | notFound name => exact .append (.same _) .label

theorem LoadError.Relabeled.code {error error' : LoadError} (h : error.Relabeled old new error') :
    error'.code = error.code := by
  cases h <;> rfl

theorem BindingError.Relabeled.message {error error' : BindingError}
    (h : error.Relabeled old new error') :
    Linkage.Relabeled old new error.message error'.message := by
  cases h with
  | same => exact .same _
  | load h => exact h.message

theorem BindingError.Relabeled.code {error error' : BindingError}
    (h : error.Relabeled old new error') : error'.code = error.code := by
  cases h with
  | same => rfl
  | load h => exact h.code

theorem BindingError.Alike.relabeled {error error' : BindingError}
    (h : error.Alike (LoadError.Relabeled old new) error') : error.Relabeled old new error' := by
  cases h with
  | same => exact .same _
  | load h => exact .load h

theorem CallError.Relabeled.refl (error : CallError) : error.Relabeled old new error :=
  ⟨rfl, .same _⟩

theorem CallError.Relabeled.message {error error' : CallError}
    (h : error.Relabeled old new error') :
    Linkage.Relabeled old new error.message error'.message := by
  rw [CallError.message, CallError.message, h.phase]
  exact .append (.same _) h.cause

end Failures

/-! ## Loading -/

namespace Namespace

/-- A namespace under another label. -/
def withLabel (label : String) : Namespace → Namespace
  | root layer => root { layer with label := label }
  | child layer parent => child { layer with label := label } parent

theorem label_withLabel (space : Namespace) (label : String) :
    (space.withLabel label).label = label := by
  cases space <;> rfl

theorem units_withLabel (space : Namespace) (label : String) :
    (space.withLabel label).layer.units = space.layer.units := by
  cases space <;> rfl

end Namespace

/-- A type of a namespace and its counterpart in the same namespace under another label. -/
inductive Counterpart (space : Namespace) (label : String) : LoadedType → LoadedType → Prop where
  /-- A unit of the entrance. -/
  | own (unit : CodeUnit) : Counterpart space label ⟨unit, space⟩ ⟨unit, space.withLabel label⟩
  /-- A type of some layer above, where nothing is relabeled. -/
  | foreign (type : LoadedType) : Counterpart space label type type

namespace Counterpart

variable {space : Namespace} {label : String} {type type' : LoadedType}

theorem unit_eq (h : Counterpart space label type type') : type'.unit = type.unit := by
  cases h <;> rfl

theorem name_eq (h : Counterpart space label type type') : type'.name = type.name :=
  congrArg CodeUnit.name h.unit_eq

end Counterpart

section Loading

variable {space : Namespace} {label : String}

/-- Two ways of loading that come to counterparts. -/
abbrev LoadsAlike {α α' : Type} (space : Namespace) (label : String) (onOk : α → α' → Prop) :
    Except LoadError α → Except LoadError α' → Prop :=
  Except.Rel (LoadError.Relabeled space.label label) onOk

namespace Namespace

theorem own_withLabel (space : Namespace) (label : String) (name : QualifiedName) :
    LoadsAlike space label (Counterpart space label) (space.own name)
      ((space.withLabel label).own name) := by
  rw [own, own, own?, own?, units_withLabel, label_withLabel]
  cases space.layer.units.lookup? name with
  | some unit => exact .ok (.own unit)
  | none => exact .error (.notFound name)

/-- What comes from a layer above is the same under every label of the entrance. -/
theorem loadsAlike_refl (result : Except LoadError LoadedType) :
    LoadsAlike space label (Counterpart space label) result result := by
  cases result with
  | error error => exact .error (.same error)
  | ok type => exact .ok (.foreign type)

theorem loadAfter_withLabel (space : Namespace) (label : String) (name : QualifiedName)
    (hops : Nat) :
    LoadsAlike space label (Counterpart space label) (space.loadAfter name hops)
      ((space.withLabel label).loadAfter name hops) := by
  cases space with
  | root layer =>
    rw [withLabel, loadAfter, loadAfter]
    split
    · exact .error (.same _)
    · exact own_withLabel (root layer) label name
  | child layer parent =>
    have habove : LoadsAlike (child layer parent) label (Counterpart (child layer parent) label)
        (parent.loadAfter name (hops + 1)) (parent.loadAfter name (hops + 1)) := loadsAlike_refl _
    have hown := own_withLabel (child layer parent) label name
    obtain ⟨number, old, policy, units, maxHops⟩ := layer
    rw [withLabel, loadAfter, loadAfter]
    split
    · exact .error (.same _)
    · cases policy with
      | isolated => exact hown
      | parentFirst =>
        -- the layer's own units count only where nothing is found above
        dsimp only
        cases hload : parent.loadAfter name (hops + 1) with
        | error error =>
          cases error with
          | notFound missing asker => exact hown
          | tooManyHops | endless => exact .error (.same _)
        | ok type =>
          rw [hload] at habove
          exact habove
      | childFirst =>
        -- and here what is above counts only where the layer has no unit of its own
        simp only [own?, layer]
        cases units.lookup? name with
        | some unit => exact .ok (.own unit)
        | none => exact habove

/-- A name denotes counterparts under both labels, or neither label knows it. -/
theorem load_withLabel (space : Namespace) (label : String) (name : QualifiedName) :
    LoadsAlike space label (Counterpart space label) (space.load name)
      ((space.withLabel label).load name) := by
  rw [load, load, label_withLabel]
  rcases (space.loadAfter_withLabel label name 0).cases with
    ⟨error, error', hload, hload', h⟩ | ⟨type, type', hload, hload', h⟩
  · rw [hload, hload']
    cases h with
    | same =>
      cases error with
      | notFound missing asker => exact .error (.notFound missing)
      | tooManyHops | endless => exact .error (.same _)
    | notFound missing => exact .error (.notFound missing)
  · rw [hload, hload']
    exact .ok h

end Namespace

end Loading

section Types

variable {space : Namespace} {label : String} {type type' : LoadedType}

namespace Counterpart

/-- What a type's home loads is the counterpart of what the home of its counterpart loads. -/
theorem load (h : Counterpart space label type type') (name : QualifiedName) :
    LoadsAlike space label (Counterpart space label) (type.home.load name)
      (type'.home.load name) := by
  cases h with
  | own unit => exact space.load_withLabel label name
  | foreign type => exact Namespace.loadsAlike_refl _

/-- Counterparts correspond, and nothing that is loaded through them is lost. -/
theorem correspondence (space : Namespace) (label : String) :
    Correspondence (fun _ => False) (LoadError.Relabeled space.label label)
      (Counterpart space label) where
  alike_refl := .same
  unit_eq := unit_eq
  load := fun h name => .rel (h.load name)

/-- The labels that messages call the homes of counterparts by. -/
theorem label_home (h : Counterpart space label type type') :
    Relabeled space.label label type.home.label type'.home.label := by
  cases h with
  | own unit =>
    rw [Namespace.label_withLabel]
    exact .label
  | foreign => exact .same _

end Counterpart

/-! ## Binding -/

/-- Two stages of binding that come to counterparts. -/
abbrev BindsAlike {α α' : Type} (space : Namespace) (label : String) (onOk : α → α' → Prop) :
    Except BindingError α → Except BindingError α' → Prop :=
  Except.Rel (BindingError.Relabeled space.label label) onOk

/-- A bound member and its counterpart. -/
abbrev Symbol.Counterpart (space : Namespace) (label : String) : Symbol → Symbol → Prop :=
  Symbol.Alike (Linkage.Counterpart space label) (Linkage.Counterpart space label)

namespace Resolver

/-- The resolver of another namespace. -/
def withSpace (resolver : Resolver) (space : Namespace) : Resolver :=
  { resolver with space := space }

/-- A resolver corresponds to the one of the relabeled namespace. -/
theorem corresponds_withLabel (resolver : Resolver) (label : String) :
    resolver.Corresponds (fun _ => False) (LoadError.Relabeled resolver.space.label label)
      (Linkage.Counterpart resolver.space label) (Linkage.Counterpart resolver.space label) 0
      (resolver.withSpace (resolver.space.withLabel label)) where
  same_types := Linkage.Counterpart.correspondence resolver.space label
  held_types := Linkage.Counterpart.correspondence resolver.space label
  granted := Or.inl rfl
  maxHops := rfl
  handles := rfl
  space := fun name => .rel (resolver.space.load_withLabel label name)
  caller := fun _ => .rel (Namespace.loadsAlike_refl _)

/-- A request comes to counterparts under both labels, or fails alike. -/
theorem resolve_withLabel (resolver : Resolver) (label : String) (request : Request) :
    BindsAlike resolver.space label (Symbol.Counterpart resolver.space label)
      (resolver.resolve request)
      ((resolver.withSpace (resolver.space.withLabel label)).resolve request) := by
  refine ((resolver.corresponds_withLabel label).resolve request).rel_of_kept ?_ ?_
  · rintro _ ⟨⟨⟩⟩
  · exact fun _ _ h => h.relabeled

end Resolver

/-! ## Calling -/

/-- Two stages of a call that come to the same. -/
abbrev CallsAlike {α α' : Type} (space : Namespace) (label : String) (onOk : α → α' → Prop) :
    Except CallError α → Except CallError α' → Prop :=
  Except.Rel (CallError.Relabeled space.label label) onOk

namespace Counterpart

theorem construct (h : Counterpart space label type type') :
    CallsAlike space label Eq type.construct type'.construct := by
  rw [LoadedType.construct, LoadedType.construct, h.unit_eq, h.name_eq]
  split
  · exact .ok rfl
  · exact .error (.refl _)

theorem holdAs (h : Counterpart space label type type') {reference reference' : LoadedType}
    (href : Counterpart space label reference reference') (maxHops : Nat) :
    CallsAlike space label Eq (type.holdAs reference maxHops)
      (type'.holdAs reference' maxHops) := by
  have hwalk : LoadsAlike space label Eq (type.isAssignable reference maxHops)
      (type'.isAssignable reference' maxHops) :=
    ((correspondence space label).isAssignable (Or.inl rfl) h href maxHops).rel_of_kept
      (fun _ => id) (fun _ _ => id)
  rw [LoadedType.holdAs, LoadedType.holdAs]
  rcases hwalk.cases with
    ⟨error, error', htest, htest', herror⟩ | ⟨held, held', htest, htest', rfl⟩
  · rw [htest, htest']
    exact .error ⟨rfl, herror.message⟩
  rw [htest, htest']
  cases held with
  | true => exact .ok rfl
  | false =>
    refine .error ⟨rfl, ?_⟩
    rw [h.name_eq, href.name_eq]
    -- the two labels are the only parts of the text that may differ
    refine .append ?_ href.label_home
    refine .append ?_ (.same _)
    refine .append ?_ (.same _)
    refine .append ?_ (.same _)
    exact .append (.same _) h.label_home

end Counterpart

theorem Receiver.Alike.ready {receiver receiver' : Receiver}
    (h : receiver.Alike (Counterpart space label) (Counterpart space label) receiver')
    (maxHops : Nat) :
    CallsAlike space label Eq (receiver.ready maxHops) (receiver'.ready maxHops) := by
  refine h.runtime.construct.bind fun _ _ _ => ?_
  have hreference := h.reference
  generalize receiver.reference = reference at hreference ⊢
  generalize receiver'.reference = reference' at hreference ⊢
  cases hreference with
  | none => exact .ok rfl
  | some href => exact h.runtime.holdAs href maxHops

namespace Symbol.Counterpart

variable {symbol symbol' : Symbol}

theorem prepare (h : Symbol.Counterpart space label symbol symbol') (maxHops : Nat) :
    CallsAlike space label Eq (symbol.prepare maxHops) (symbol'.prepare maxHops) := by
  have hreceiver := h.receiver
  rw [Symbol.prepare, Symbol.prepare]
  generalize symbol.receiver = receiver at hreceiver ⊢
  generalize symbol'.receiver = receiver' at hreceiver ⊢
  cases hreceiver with
  | none => exact .ok rfl
  | some hreceiver => exact hreceiver.ready maxHops

theorem call_eq (h : Symbol.Counterpart space label symbol symbol') :
    symbol'.call = symbol.call := by
  funext sent sensitive
  rw [Symbol.call, Symbol.call, h.member, h.body]

end Symbol.Counterpart

/-- Calling a member and its counterpart comes to the same, apart from the label in the cause of a
failure, and leaves the same behind. -/
theorem Caller.invoke_counterpart {σ : Type} (caller : Caller σ) {symbol symbol' : Symbol}
    (h : Symbol.Counterpart space label symbol symbol') (values : List Value) (state : σ) :
    ∃ result, caller.invoke symbol' values state =
        (result, (caller.invoke symbol values state).2) ∧
      CallsAlike space label Eq (caller.invoke symbol values state).1 result := by
  rcases (h.prepare caller.maxHops).cases with
    ⟨error, error', hprepare, hprepare', herror⟩ | ⟨_, _, hprepare, hprepare', -⟩
  · rw [invoke_of_prepare_eq_error hprepare, invoke_of_prepare_eq_error hprepare']
    exact ⟨.error error', rfl, .error herror⟩
  · cases hcall : symbol.call (withSensitive values (caller.source.draw state).1)
      (caller.source.draw state).1 with
    | error error =>
      have hcall' := (congrFun₂ h.call_eq _ _).trans hcall
      rw [invoke_of_call_eq_error hprepare hcall, invoke_of_call_eq_error hprepare' hcall']
      exact ⟨.error error, rfl, .error (.refl error)⟩
    | ok invocation =>
      have hcall' := (congrFun₂ h.call_eq _ _).trans hcall
      rw [invoke_of_call_eq_ok hprepare hcall, invoke_of_call_eq_ok hprepare' hcall']
      exact ⟨.ok invocation, rfl, .ok rfl⟩

end Types

end Linkage
