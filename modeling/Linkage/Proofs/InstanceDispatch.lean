import Linkage.Binding.Resolve
import Linkage.Proofs.Walks

/-!
# Calls on an instance

`LoadedType.bindInstance` walks up the parents of a type twice, and a third time to see what a
member of the type itself shadows. On a row of types all three walks are list functions, and so is
what they come to: a body found on the row answers, whatever the capabilities supply
(`bindInstance_of_body`), and without one the collected defaults decide (`bindInstance_of_no_body`).

`Resolver.InstanceCall` lists the ways of calling that go through an instance. They differ in whether
capabilities may answer and in what they demand of the place where the member lies
(`Resolver.conclude`). `Resolver.bind_of_ascent` says in terms of the row alone what each of them
comes to; `Fork` is a row on which two capabilities compete.
-/

namespace Linkage

namespace LoadedType

/-- Where the first hit of a row of types lies, as seen from the first type. On that type itself,
an overriding member must have another hit above it. -/
def originOn (key : MemberKey) (chain : List LoadedType) (hit : Hit) :
    Except BindingError Origin :=
  if 0 < hit.depth then .ok (.inherited hit.owner.name)
  else match firstHit? key 0 chain.tail with
    | some shadowed => .ok (.overridden shadowed.owner.name)
    | none =>
      if hit.member.kind = .override then .error (.notOverridden hit.owner.name key.name)
      else .ok .declared

variable {target : LoadedType} {key : MemberKey} {chain : List LoadedType}

/-! ## Binding -/

/-- Where a hit lies is read off the row. -/
theorem originOf_of_ascent {maxHops : Nat} {hit : Hit} (ascent : target.Ascent chain)
    (short : chain.length ≤ maxHops + 1) (h : firstHit? key 0 chain = some hit) :
    target.originOf hit maxHops = originOn key chain hit := by
  obtain ⟨hmember, -, hfirst⟩ := firstHit?_eq_some h
  have hkey : hit.member.key = key :=
    (CodeUnit.mem_and_key_of_member? (CodeUnit.instanceMember?_eq_some_iff.1 hmember).1).2
  rw [originOf, originOn]
  by_cases hdepth : 0 < hit.depth
  · rw [if_pos hdepth, if_pos hdepth]
  · -- the hit is on the target itself, so what it shadows is the first hit of the rest of the row
    have howner : target = hit.owner := by
      have hhead := hfirst (Nat.eq_zero_of_not_pos hdepth)
      rw [ascent.head?] at hhead
      exact Option.some.inj hhead
    rw [if_neg hdepth, if_neg hdepth, hkey, ← howner]
    rcases ascent.parent with ⟨hparent, htail⟩ | ⟨above, hparent, more⟩
    · rw [hparent, htail, firstHit?_nil]
      rfl
    · have hshort : chain.tail.length ≤ maxHops + 1 := by
        rw [List.length_tail]
        omega
      rw [hparent]
      simp only [findInChain_of_ascent more hshort]
      cases firstHit? key 0 chain.tail <;> rfl

/-- A body found on the way up answers, with or without defaults. -/
theorem bindInstance_of_found {maxHops : Nat} {hit : Hit} {body : Body}
    (hfound : target.findInChain key maxHops = .ok (some hit)) (hbody : hit.member.body = some body)
    (withDefaults : Bool) :
    target.bindInstance key withDefaults maxHops =
      (target.originOf hit maxHops).map fun origin => ⟨hit, body, origin⟩ := by
  rw [bindInstance, hfound, Except.ok_bind, Option.bind_some, hbody, Option.map_some]
  dsimp only
  cases target.originOf hit maxHops <;> rfl

/-- A body found on the row answers, with or without defaults. -/
theorem bindInstance_of_body {maxHops : Nat} {hit : Hit} {body : Body}
    (ascent : target.Ascent chain) (short : chain.length ≤ maxHops + 1)
    (hhit : firstHit? key 0 chain = some hit) (hbody : hit.member.body = some body)
    (withDefaults : Bool) :
    target.bindInstance key withDefaults maxHops =
      (originOn key chain hit).map fun origin => ⟨hit, body, origin⟩ := by
  have hfound : target.findInChain key maxHops = .ok (some hit) := by
    rw [findInChain_of_ascent ascent short, hhit]
  rw [bindInstance_of_found hfound hbody, originOf_of_ascent ascent short hhit]

/-- A walk that fails is the failure of the call, with or without defaults. -/
theorem bindInstance_of_error {maxHops : Nat} {error : BindingError}
    (hfound : target.findInChain key maxHops = .error error) (withDefaults : Bool) :
    target.bindInstance key withDefaults maxHops = .error error := by
  rw [bindInstance, hfound, Except.error_bind]

/-- Where the walk finds no body, what the capabilities answer decides. -/
theorem bindInstance_of_bodiless {maxHops : Nat} {found : Option Hit}
    (hfound : target.findInChain key maxHops = .ok found)
    (hbody : ∀ hit, found = some hit → hit.member.body = none) (withDefaults : Bool) :
    target.bindInstance key withDefaults maxHops =
      (if withDefaults then target.chooseDefault key maxHops else .ok none) >>= fun chosen =>
        match chosen with
        | some binding => .ok binding
        | none => .error (target.unanswered key found) := by
  have hnone : (found.bind fun hit => hit.member.body.map fun body => (hit, body)) = none := by
    cases found with
    | none => rfl
    | some hit => rw [Option.bind_some, hbody hit rfl, Option.map_none]
  rw [bindInstance, hfound, Except.ok_bind, hnone]
  cases withDefaults <;> rfl

/-- The walk fails, finds a body, or finds none. -/
theorem findInChain_cases (target : LoadedType) (key : MemberKey) (maxHops : Nat) :
    (∃ error, target.findInChain key maxHops = .error error) ∨
      (∃ hit body, target.findInChain key maxHops = .ok (some hit) ∧
        hit.member.body = some body) ∨
      ∃ found, target.findInChain key maxHops = .ok found ∧
        ∀ hit, found = some hit → hit.member.body = none := by
  cases hfound : target.findInChain key maxHops with
  | error error => exact Or.inl ⟨error, rfl⟩
  | ok found =>
    cases found with
    | none => exact Or.inr (Or.inr ⟨none, rfl, by simp⟩)
    | some hit =>
      cases hbody : hit.member.body with
      | some body => exact Or.inr (Or.inl ⟨hit, body, rfl, hbody⟩)
      | none =>
        refine Or.inr (Or.inr ⟨some hit, rfl, ?_⟩)
        rintro _ ⟨⟩
        exact hbody

/-- Without a body on the row, what the capabilities answer decides. -/
theorem bindInstance_of_no_body {maxHops : Nat} (ascent : target.Ascent chain)
    (short : chain.length ≤ maxHops + 1)
    (hbody : ∀ hit, firstHit? key 0 chain = some hit → hit.member.body = none)
    (withDefaults : Bool) :
    target.bindInstance key withDefaults maxHops =
      (if withDefaults then target.chooseDefault key maxHops else .ok none) >>= fun chosen =>
        match chosen with
        | some binding => .ok binding
        | none => .error (target.unanswered key (firstHit? key 0 chain)) :=
  bindInstance_of_bodiless (findInChain_of_ascent ascent short) hbody withDefaults

/-- The only collected default answers, with its body. -/
theorem chooseDefault_of_single {maxHops : Nat} {hit : Hit} (ascent : target.Ascent chain)
    (short : chain.length ≤ maxHops + 1) (hsingle : defaultsOn key chain = [hit]) :
    ∃ body, hit.member.body = some body ∧
      target.chooseDefault key maxHops = .ok (some ⟨hit, body, .default hit.owner.name⟩) := by
  obtain ⟨-, body, hbody⟩ := default_of_mem_defaultsOn (hsingle ▸ List.mem_singleton_self hit)
  refine ⟨body, hbody, ?_⟩
  rw [chooseDefault, collectDefaults_of_ascent ascent short, hsingle]
  simp only [Except.ok_bind, bodyOf, hbody]

theorem chooseDefault_of_nil {maxHops : Nat} (ascent : target.Ascent chain)
    (short : chain.length ≤ maxHops + 1) (hnil : defaultsOn key chain = []) :
    target.chooseDefault key maxHops = .ok none := by
  rw [chooseDefault, collectDefaults_of_ascent ascent short, hnil]
  rfl

/-- Several collected defaults are all named, and none is chosen. -/
theorem chooseDefault_of_several {maxHops : Nat} (ascent : target.Ascent chain)
    (short : chain.length ≤ maxHops + 1) (hseveral : 2 ≤ (defaultsOn key chain).length) :
    target.chooseDefault key maxHops =
      .error (.ambiguousDefault key.name
        ((defaultsOn key chain).map fun hit => hit.owner.name)) := by
  rw [chooseDefault, collectDefaults_of_ascent ascent short, Except.ok_bind]
  match h : defaultsOn key chain with
  | [] => simp [h] at hseveral
  | [hit] => simp [h] at hseveral
  | first :: second :: rest => rfl

end LoadedType

namespace Resolver

/-- The ways of calling a member on an instance, with the type the instance is held as and whether
capabilities may answer. An instance that is held as another type needs the member there. -/
inductive InstanceCall (resolver : Resolver) (key : MemberKey) :
    Dispatch → Option LoadedType → Bool → Prop where
  | virtual : InstanceCall resolver key .virtual none false
  | inherited : InstanceCall resolver key .inherited none false
  | overridden : InstanceCall resolver key .overridden none false
  | interfaceDefault : InstanceCall resolver key .interfaceDefault none true
  | factory {via : QualifiedName} {reference : LoadedType}
      (loads : loadIn resolver.caller via = .ok reference)
      (slot : reference.hasSlot key resolver.maxHops = .ok true) :
      InstanceCall resolver key (.factory via) (some reference) true

/-- The symbol of a binding. Two ways of calling put a condition on where the member lies. -/
def conclude (target : LoadedType) (key : MemberKey) (dispatch : Dispatch)
    (reference : Option LoadedType) (binding : InstanceBinding) : Except BindingError Symbol :=
  if dispatch = .inherited ∧ binding.origin.isInherited = false then
    .error (.notInherited target.name key.name)
  else if dispatch = .overridden ∧ binding.origin.isOverridden = false then
    .error (.notOverridden target.name key.name)
  else .ok (binding.symbol dispatch target reference)

variable {resolver : Resolver} {target : LoadedType} {key : MemberKey} {dispatch : Dispatch}
  {reference : Option LoadedType} {withDefaults : Bool} {chain : List LoadedType}

/-- All ways of calling on an instance share one rule. -/
theorem InstanceCall.bind_eq (call : resolver.InstanceCall key dispatch reference withDefaults) :
    resolver.bind target key dispatch =
      target.bindInstance key withDefaults resolver.maxHops >>=
        conclude target key dispatch reference := by
  cases call with
  | virtual =>
    rw [bind]
    cases target.bindInstance key false resolver.maxHops <;> rfl
  | inherited =>
    rw [bind]
    cases target.bindInstance key false resolver.maxHops with
    | error error => rfl
    | ok binding => cases h : binding.origin.isInherited <;> simp [conclude, h]
  | overridden =>
    rw [bind]
    cases target.bindInstance key false resolver.maxHops with
    | error error => rfl
    | ok binding => cases h : binding.origin.isOverridden <;> simp [conclude, h]
  | interfaceDefault =>
    rw [bind]
    cases target.bindInstance key true resolver.maxHops <;> rfl
  | factory loads slot =>
    rw [bind, loads, Except.ok_bind, slot, Except.ok_bind]
    cases target.bindInstance key true resolver.maxHops <;> simp [conclude]

/-- A call that needs a receiver and is bound goes through an instance. -/
theorem exists_instanceCall {symbol : Symbol} (hreceiver : dispatch.needsReceiver = true)
    (h : resolver.bind target key dispatch = .ok symbol) :
    ∃ reference withDefaults, resolver.InstanceCall key dispatch reference withDefaults := by
  cases dispatch with
  | virtual => exact ⟨none, false, .virtual⟩
  | inherited => exact ⟨none, false, .inherited⟩
  | overridden => exact ⟨none, false, .overridden⟩
  | interfaceDefault => exact ⟨none, true, .interfaceDefault⟩
  | factory via =>
    obtain ⟨reference, loads, h⟩ := Except.bind_eq_ok_iff.1 h
    obtain ⟨slot, hslot, h⟩ := Except.bind_eq_ok_iff.1 h
    cases slot with
    | true => exact ⟨some reference, true, .factory loads hslot⟩
    | false => cases h
  | static => cases hreceiver
  | interfaceStatic => cases hreceiver

/-- A request for a type that loads is bound on that type. -/
theorem resolve_of_load {request : Request} (hload : resolver.space.load request.type = .ok target) :
    resolver.resolve request = resolver.bind target request.member request.dispatch := by
  rw [resolve, loadIn, hload]
  rfl

/-- A conclusion that is reached is the symbol of the binding. -/
theorem symbol_of_conclude {binding : InstanceBinding} {symbol : Symbol}
    (h : conclude target key dispatch reference binding = .ok symbol) :
    symbol = binding.symbol dispatch target reference := by
  rw [conclude] at h
  split at h
  · cases h
  · split at h
    · cases h
    · cases h
      rfl

/-- Where capabilities may answer, no condition is put on where the member lies. -/
theorem InstanceCall.conclude_eq (call : resolver.InstanceCall key dispatch reference true)
    (binding : InstanceBinding) :
    conclude target key dispatch reference binding =
      .ok (binding.symbol dispatch target reference) := by
  cases call <;> simp [conclude]

/-- What a call on an instance comes to, for a type whose row of types above it loads and is within
the bound. The first hit of the row answers if it has a body, whatever the capabilities supply, and
`originOn` says where it lies. Otherwise, where capabilities may answer, the only default of the
row answers, and several of them fail with all their names in order. In every other case the
failure names the first hit, which is abstract, or says that there is none. -/
theorem bind_of_ascent (call : resolver.InstanceCall key dispatch reference withDefaults)
    (ascent : target.Ascent chain) (short : chain.length ≤ resolver.maxHops + 1) :
    (∀ hit body, LoadedType.firstHit? key 0 chain = some hit → hit.member.body = some body →
      resolver.bind target key dispatch = LoadedType.originOn key chain hit >>= fun origin =>
        conclude target key dispatch reference ⟨hit, body, origin⟩) ∧
    ((∀ hit, LoadedType.firstHit? key 0 chain = some hit → hit.member.body = none) →
      (∀ hit, withDefaults = true → LoadedType.defaultsOn key chain = [hit] →
        ∃ body, hit.member.body = some body ∧
          resolver.bind target key dispatch = .ok
            (InstanceBinding.symbol ⟨hit, body, .default hit.owner.name⟩ dispatch target
              reference)) ∧
      (withDefaults = true → 2 ≤ (LoadedType.defaultsOn key chain).length →
        resolver.bind target key dispatch = .error (.ambiguousDefault key.name
          ((LoadedType.defaultsOn key chain).map fun hit => hit.owner.name))) ∧
      (withDefaults = false ∨ LoadedType.defaultsOn key chain = [] →
        resolver.bind target key dispatch =
          .error (target.unanswered key (LoadedType.firstHit? key 0 chain)))) := by
  rw [call.bind_eq]
  constructor
  · intro hit body hhit hbody
    rw [LoadedType.bindInstance_of_body ascent short hhit hbody]
    cases LoadedType.originOn key chain hit <;> rfl
  · -- no body on the row, so what the capabilities supply decides
    intro hbody
    rw [LoadedType.bindInstance_of_no_body ascent short hbody]
    refine ⟨?_, ?_, ?_⟩
    · rintro hit rfl hsingle
      obtain ⟨body, hbody, hchosen⟩ := LoadedType.chooseDefault_of_single ascent short hsingle
      refine ⟨body, hbody, ?_⟩
      rw [if_pos rfl, hchosen, Except.ok_bind, Except.ok_bind, call.conclude_eq]
    · rintro rfl hseveral
      rw [if_pos rfl, LoadedType.chooseDefault_of_several ascent short hseveral]
      rfl
    · rintro (rfl | hnil)
      · rfl
      · rw [LoadedType.chooseDefault_of_nil ascent short hnil, ite_self]
        rfl

end Resolver

/-! ## A row with competing defaults -/

namespace Fork

/-- The member that everything below declares. -/
def key : MemberKey := ⟨"run", ⟨[]⟩⟩

/-- A unit of the given parts. -/
def unit (name : String) (kind : UnitKind) (parent : Option QualifiedName)
    (capabilities : List QualifiedName) (members : List Member)
    (sound : (Declaration.mk ⟨name⟩ kind parent capabilities members).fault? = none) : CodeUnit :=
  ⟨⟨0, ⟨name⟩, kind, parent, capabilities, members⟩, Declaration.fault?_eq_none_iff.1 sound⟩

/-- A capability with a default body. -/
def left : CodeUnit :=
  unit "Left" .interface none [] [⟨key, .default, some (.transfer "L")⟩] (by decide)

/-- Another capability with a default body for the same member. -/
def right : CodeUnit :=
  unit "Right" .interface none [] [⟨key, .default, some (.transfer "R")⟩] (by decide)

/-- A class with both capabilities that leaves the member open. -/
def base : CodeUnit :=
  unit "Base" .abstractClass none [⟨"Left"⟩, ⟨"Right"⟩] [⟨key, .abstract, none⟩] (by decide)

/-- A class that repeats one of the capabilities. -/
def leaf : CodeUnit := unit "Leaf" .concreteClass (some ⟨"Base"⟩) [⟨"Right"⟩] [] (by decide)

/-- The namespace of all four; a walk may take one step. -/
def space : Namespace := .root ⟨0, "fork", .isolated, ⟨[left, right, base, leaf], by decide⟩, 1⟩

/-- A layer below it that holds copies of two of them and is asked first. -/
def overlay : Namespace := .child ⟨1, "overlay", .childFirst, ⟨[right, leaf], by decide⟩, 1⟩ space

theorem ascent : LoadedType.Ascent ⟨leaf, space⟩ [⟨leaf, space⟩, ⟨base, space⟩] :=
  .step rfl rfl (.top rfl rfl)

end Fork

/-- The repeated capability competes once, in front, and the abstract member does not decide. A call
that asks no capability finds the abstract member. -/
theorem Resolver.bind_fork :
    (Resolver.ofNamespace Fork.space).bind ⟨Fork.leaf, Fork.space⟩ Fork.key .interfaceDefault =
        .error (.ambiguousDefault "run" [⟨"Right"⟩, ⟨"Left"⟩]) ∧
      (Resolver.ofNamespace Fork.space).bind ⟨Fork.leaf, Fork.space⟩ Fork.key .virtual =
        .error (.abstractMember ⟨"Base"⟩ "run") := by
  have hopen : ∀ hit, LoadedType.firstHit? Fork.key 0
      [⟨Fork.leaf, Fork.space⟩, ⟨Fork.base, Fork.space⟩] = some hit → hit.member.body = none := by
    rintro hit ⟨⟩
    rfl
  constructor
  · exact ((bind_of_ascent .interfaceDefault Fork.ascent (by decide)).2 hopen).2.1 rfl (by decide)
  · exact ((bind_of_ascent .virtual Fork.ascent (by decide)).2 hopen).2.2 (Or.inl rfl)

/-- The two copies of a capability that the class and its parent list are one competitor. -/
example :
    (Resolver.ofNamespace Fork.overlay).bind ⟨Fork.leaf, Fork.overlay⟩ Fork.key .interfaceDefault =
      .error (.ambiguousDefault "run" [⟨"Right"⟩, ⟨"Left"⟩]) := rfl

end Linkage
