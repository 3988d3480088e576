import Linkage.Proofs.CanonicalCalls
import Linkage.Proofs.ScenarioSpaces

/-!
# Predicted owners

`hostAnswers` predicts from names alone whether the host's type or the scenario's own answers. Here
the prediction is compared with where the owner of a bound symbol comes from, for a host that is a
root.

A layer that asks the host first gets the host's type for every name the host declares, and this
carries over to all that is reached from it (`Reaches.home_eq_root_iff`). So the prediction is right
whenever the host is asked first, or is not there (`Harness.home_eq_host_iff_hostAnswers`).

Where the host is asked last, it is never predicted to answer. It answers nevertheless when the
layer below lacks a name that is asked for on the way, a `Namespace.Gap`, and only then
(`Harness.home_eq_host_iff_exists_gap`). `Heir` is a payload with such a gap.
-/

namespace Linkage

/-! ## A layer and what is above it -/

namespace Namespace

variable {layer above : Layer} {space parent : Namespace} {name : QualifiedName} {type : LoadedType}

theorem own?_eq_none_iff : space.own? name = none ↔ space.layer.units.contains name = false := by
  rw [own?, Option.map_eq_none_iff, Registry.contains, Option.isSome_eq_false_iff,
    Option.isNone_iff_eq_none]

/-- A type is among those that its home declares. -/
theorem contains_of_within (h : type.Within space) :
    type.home.layer.units.contains type.name = true := by
  rw [← Bool.not_eq_false, ← own?_eq_none_iff, h.declared]
  exact Option.some_ne_none type

/-- A root that is reached in time answers what it declares, and does not find anything else. -/
theorem own?_of_loadAfter_root {hops : Nat} :
    (∀ type, loadAfter name (root above) hops = .ok type → (root above).own? name = some type) ∧
      (∀ missing asker, loadAfter name (root above) hops = .error (.notFound missing asker) →
        (root above).own? name = none) := by
  rw [loadAfter]
  split
  · -- a root that is too far away gives the request up, which is neither of the two
    simp
  · rw [own]
    cases (root above).own? name <;> simp

/-- A layer that asks a root first gets the root's type for every name that the root declares. -/
theorem home_eq_root_iff_of_load (hpolicy : layer.policy = .parentFirst)
    (h : (child layer (root above)).load name = .ok type) :
    type.home = root above ↔ above.units.contains name = true := by
  obtain ⟨hwithin, hname⟩ := LoadedType.within_of_load h
  constructor
  · intro hhome
    have hdeclared := contains_of_within hwithin
    rw [hhome, hname] at hdeclared
    exact hdeclared
  · intro hdeclared
    rw [load_eq_ok_iff, loadAfter, if_neg (Nat.not_lt_zero _), hpolicy] at h
    dsimp only at h
    -- only a failure to find the name lets the request fall back to the layer itself
    split at h
    · next hroot =>
      have hmissing := own?_eq_none_iff.1 (own?_of_loadAfter_root.2 _ _ hroot)
      exact absurd hdeclared (Bool.eq_false_iff.1 hmissing)
    · exact home_of_own? (own?_of_loadAfter_root.1 _ h)

/-- A layer that is asked before what is above it answers for every name it declares. -/
theorem home_ne_iff_of_load (hpolicy : layer.policy = .childFirst)
    (h : (child layer parent).load name = .ok type) :
    type.home ≠ child layer parent ↔ layer.units.contains name = false := by
  obtain ⟨hwithin, hname⟩ := LoadedType.within_of_load h
  constructor
  · intro hhome
    rw [load_eq_ok_iff, loadAfter, if_neg (Nat.not_lt_zero _), hpolicy] at h
    cases hown : (child layer parent).own? name with
    | none => exact own?_eq_none_iff.1 hown
    | some found =>
      simp only [hown] at h
      cases h
      exact absurd (home_of_own? hown) hhome
  · intro hmissing hhome
    have hdeclared := contains_of_within hwithin
    rw [hhome, hname] at hdeclared
    exact absurd hdeclared (Bool.eq_false_iff.1 hmissing)

/-- A name through which a request for a type leaves a namespace: the namespace does not declare it,
and it is the name asked for, or one that a type of the namespace refers to that is reached from
there. -/
inductive Gap (space : Namespace) (asked : QualifiedName) : QualifiedName → Prop where
  | asked (missing : space.layer.units.contains asked = false) : Gap space asked asked
  | referred {target type : LoadedType} {name : QualifiedName}
      (loads : space.load asked = .ok target) (reached : target.Reaches type)
      (home : type.home = space) (refers : type.RefersTo name)
      (missing : space.layer.units.contains name = false) : Gap space asked name

theorem Gap.contains_eq_false {asked : QualifiedName} (gap : space.Gap asked name) :
    space.layer.units.contains name = false := by
  cases gap with
  | asked missing => exact missing
  | referred _ _ _ _ missing => exact missing

end Namespace

open Namespace

namespace LoadedType

variable {layer above : Layer} {asked : QualifiedName} {start type : LoadedType}

/-- Below a root, the home of what is reached is the layer or the root. -/
theorem Reaches.home_below_root (h : start.Reaches type)
    (hload : (child layer (root above)).load asked = .ok start) (hopen : layer.policy ≠ .isolated) :
    type.home = child layer (root above) ∨ type.home = root above := by
  have hvisible := (h.within (within_of_load hload).1).home_visible
  rw [visible, if_neg hopen] at hvisible
  simpa [visible] using hvisible

/-- Below a root that is asked first, whatever is reached comes out of the root as soon as the root
declares its name. -/
theorem Reaches.home_eq_root_iff (hpolicy : layer.policy = .parentFirst) (h : start.Reaches type)
    (hload : (child layer (root above)).load asked = .ok start) :
    type.home = root above ↔ above.units.contains type.name = true := by
  cases h with
  | refl =>
    rw [(within_of_load hload).2]
    exact home_eq_root_iff_of_load hpolicy hload
  | step earlier refers loads =>
    -- the type before is at home in the layer, where the root is asked, or in the root itself
    rw [(within_of_load loads).2]
    rcases earlier.home_below_root hload (by simp [hpolicy]) with hhome | hhome
    · rw [hhome] at loads
      exact home_eq_root_iff_of_load hpolicy loads
    · rw [hhome] at loads
      have hfound := (within_of_load loads).1.home_of_root
      have hdeclared := contains_of_within (within_of_load loads).1
      rw [hfound, (within_of_load loads).2] at hdeclared
      exact iff_of_true hfound hdeclared

/-- Below a root that is asked last, what comes out of the root is reached through a gap. -/
theorem Reaches.home_eq_root_iff_exists_gap (hpolicy : layer.policy = .childFirst)
    (h : start.Reaches type) (hload : (child layer (root above)).load asked = .ok start) :
    type.home = root above ↔ ∃ name found, (child layer (root above)).Gap asked name ∧
      (child layer (root above)).load name = .ok found ∧ found.Reaches type := by
  constructor
  · intro hhome
    -- on the way to a type of the root, the first reference out of the layer is the gap
    induction h with
    | refl =>
      have hmissing := (home_ne_iff_of_load hpolicy hload).1 (by simp [hhome])
      exact ⟨asked, start, .asked hmissing, hload, .refl⟩
    | step earlier refers loads ih =>
      rcases earlier.home_below_root hload (by simp [hpolicy]) with hbefore | hbefore
      · rw [hbefore] at loads
        have hmissing := (home_ne_iff_of_load hpolicy loads).1 (by simp [hhome])
        exact ⟨_, _, .referred hload earlier hbefore refers hmissing, loads, .refl⟩
      · obtain ⟨name, found, gap, hfound, hreached⟩ := ih hbefore
        exact ⟨name, found, gap, hfound, hreached.step refers loads⟩
  · rintro ⟨name, found, gap, hfound, hreached⟩
    -- nothing leads back from the root into the layer
    have hout : found.home = root above := by
      have hne := (home_ne_iff_of_load hpolicy hfound).2 gap.contains_eq_false
      exact (Reaches.refl.home_below_root hfound (by simp [hpolicy])).resolve_left hne
    have hroot : found.Within found.home :=
      ⟨mem_visible _, (within_of_load hfound).1.declared⟩
    rw [hout] at hroot
    exact (hreached.within hroot).home_of_root

end LoadedType

/-! ## A payload that leaves a gap -/

namespace Heir

/-- The member that is inherited, answering under a tag. -/
def member (tag : String) : Member :=
  ⟨⟨"extendedTransfer", .canonical⟩, .virtual, some (.transfer tag)⟩

/-- The class that declares the member. -/
def parent (stamp : Nat) (tag : String) : CodeUnit where
  id := ⟨stamp, Plan.bundled "APReflectee", .concreteClass, none, [], [member tag]⟩
  valid := Declaration.fault?_eq_none_iff.1 rfl

/-- The class that inherits it. -/
def child : CodeUnit where
  id := ⟨scenarioNumber, Plan.bundled "AReflectee", .concreteClass,
    some (Plan.bundled "APReflectee"), [], []⟩
  valid := Declaration.fault?_eq_none_iff.1 (by decide)

/-- The units of a host that declares the parent. -/
def hostUnits : Registry := ⟨[parent hostNumber "MainAPK"], by decide⟩

/-- The units of a payload with both classes. -/
def closedUnits : Registry := ⟨[parent scenarioNumber "A", child], by decide⟩

/-- The units of a payload that has no parent for its class. -/
def openUnits : Registry := ⟨[child], by decide⟩

/-- A harness with that host. -/
def harness : Harness (List String) :=
  .ofHost hostUnits (by decide) Files.empty.store .nothing {} (.constant "secret") .recording

/-- A scenario that calls the inherited member below the host. -/
def scenario (loader : LoaderKind) : Scenario := ⟨loader, false, true, .extended⟩

/-- What a scenario with both classes binds in. -/
def closedSpace : Namespace := harness.space (scenario .byteBuffer) closedUnits

/-- What a scenario without the parent binds in, where the host is asked last. -/
def openSpace : Namespace := harness.space (scenario .delegateLast) openUnits

/-- The answer of the host's parent, seen from the class in a namespace. -/
def symbol (space : Namespace) : Symbol :=
  ⟨⟨parent hostNumber "MainAPK", harness.host⟩, .inherited, member "MainAPK", .transfer "MainAPK",
    .inherited (Plan.bundled "APReflectee"), some ⟨⟨child, space⟩, none⟩⟩

theorem resolve_closedSpace :
    (harness.resolver closedSpace).resolve (Plan.ofScenario (scenario .byteBuffer)).request =
      .ok (symbol closedSpace) :=
  Except.toOption_eq_some_iff.1 (by decide +kernel)

theorem resolve_openSpace :
    (harness.resolver openSpace).resolve (Plan.ofScenario (scenario .delegateLast)).request =
      .ok (symbol openSpace) :=
  Except.toOption_eq_some_iff.1 (by decide +kernel)

theorem invoke_symbol :
    (harness.caller.invoke (symbol openSpace) canonicalArguments []).1 =
      .ok (echoedCall "secret" "MainAPK" (canonicalCall "secret")) := rfl

end Heir

/-! ## Predictions -/

theorem LoaderKind.policy_eq_parentFirst_iff {kind : LoaderKind} :
    kind.policy = .parentFirst ↔ kind ≠ .delegateLast := by
  cases kind <;> simp [policy]

/-- The host is predicted to answer when it is there, is asked first, and declares the name. -/
theorem hostAnswers_eq_true_iff {scenario : Scenario} {answering : QualifiedName}
    {host : Registry} :
    hostAnswers scenario answering host = true ↔
      scenario.hasParent = true ∧ scenario.loader ≠ .delegateLast ∧
        host.contains answering = true := by
  simp [hostAnswers, LoaderKind.policy_eq_parentFirst_iff, and_assoc]

namespace Harness

variable {σ : Type} {harness : Harness σ} {scenario : Scenario} {above : Layer} {units : Registry}
  {symbol : Symbol}

/-- The host's tag is expected where the host is predicted to answer, and the payload's tag
elsewhere. -/
theorem expectedOwner_eq (harness : Harness σ) (scenario : Scenario) :
    harness.expectedOwner scenario =
      if hostAnswers scenario (Plan.ofScenario scenario).answering harness.host.layer.units = true
      then harness.settings.hostTag else harness.settings.payloadTag := rfl

/-- Where the host is not there or is asked first, the owner of the symbol that a scenario comes to
is the host's exactly when that was predicted, provided that the owner has the name the prediction
is about. So the tag that is expected is the host's for an owner of the host, and the payload's
for any other one. -/
theorem home_eq_host_iff_hostAnswers (hroot : harness.host = .root above)
    (hfirst : scenario.hasParent = false ∨ scenario.loader ≠ .delegateLast)
    (hresolve : (harness.resolver (harness.space scenario units)).resolve
      (Plan.ofScenario scenario).request = .ok symbol)
    (hname : symbol.owner.name = (Plan.ofScenario scenario).answering) :
    (symbol.owner.home = harness.host ↔
      hostAnswers scenario (Plan.ofScenario scenario).answering harness.host.layer.units =
        true) ∧
    harness.expectedOwner scenario =
      if symbol.owner.home = harness.host then harness.settings.hostTag
      else harness.settings.payloadTag := by
  have hpredicted : symbol.owner.home = harness.host ↔
      hostAnswers scenario (Plan.ofScenario scenario).answering harness.host.layer.units =
        true := by
    obtain ⟨target, hload, howner⟩ := exists_load_of_resolve hresolve
    rw [hostAnswers_eq_true_iff]
    cases hparent : scenario.hasParent with
    | false =>
      -- the owner is at home in the scenario's own layer, which no host has
      have hwithin := howner.within (LoadedType.within_of_load hload).1
      rw [space_eq_root hparent] at hwithin
      have hhome := hwithin.home_of_root
      rw [← space_eq_root hparent] at hhome
      simp [hhome, space_ne_host]
    | true =>
      have hloader : scenario.loader ≠ .delegateLast := by simpa [hparent] using hfirst
      have hpolicy : (harness.space scenario units).layer.policy = .parentFirst := by
        rw [layer_space]
        exact LoaderKind.policy_eq_parentFirst_iff.2 hloader
      rw [space_eq_child hparent, hroot] at hload
      rw [hroot, howner.home_eq_root_iff hpolicy hload, hname]
      simp [hloader, Namespace.layer]
  refine ⟨hpredicted, ?_⟩
  rw [expectedOwner_eq]
  simp only [hpredicted]

/-- The host's parent answers over the payload's own, as predicted. -/
theorem hostAnswers_heir :
    hostAnswers (Heir.scenario .byteBuffer) (Plan.ofScenario (Heir.scenario .byteBuffer)).answering
      Heir.harness.host.layer.units = true :=
  (home_eq_host_iff_hostAnswers rfl (Or.inr (by decide)) Heir.resolve_closedSpace rfl).1.1 rfl

/-- Where the host is there and is asked last, it is never predicted to answer, and its tag is never
expected. The owner of the symbol that a scenario comes to is the host's exactly when a gap led
there, so the prediction is right exactly when none did. A scenario's own units that lack the
answering type always leave it to the host. -/
theorem home_eq_host_iff_exists_gap (hroot : harness.host = .root above)
    (hparent : scenario.hasParent = true) (hlast : scenario.loader = .delegateLast)
    (hresolve : (harness.resolver (harness.space scenario units)).resolve
      (Plan.ofScenario scenario).request = .ok symbol)
    (hname : symbol.owner.name = (Plan.ofScenario scenario).answering) :
    (hostAnswers scenario (Plan.ofScenario scenario).answering harness.host.layer.units = false ∧
      harness.expectedOwner scenario = harness.settings.payloadTag) ∧
    (symbol.owner.home = harness.host ↔ ∃ name found,
      (harness.space scenario units).Gap (Plan.ofScenario scenario).request.type name ∧
        (harness.space scenario units).load name = .ok found ∧ found.Reaches symbol.owner) ∧
    (units.contains (Plan.ofScenario scenario).answering = false →
      symbol.owner.home = harness.host) := by
  obtain ⟨target, hload, howner⟩ := exists_load_of_resolve hresolve
  have hpolicy : (harness.space scenario units).layer.policy = .childFirst := by
    rw [layer_space, hlast]
    rfl
  have hpredicted :
      hostAnswers scenario (Plan.ofScenario scenario).answering harness.host.layer.units =
        false := by
    rw [← Bool.not_eq_true, hostAnswers_eq_true_iff]
    simp [hlast]
  have hexpected : harness.expectedOwner scenario = harness.settings.payloadTag := by
    rw [expectedOwner_eq, hpredicted]
    rfl
  refine ⟨⟨hpredicted, hexpected⟩, ?_, ?_⟩
  · rw [harness.space_eq_child hparent units, hroot] at hload ⊢
    exact howner.home_eq_root_iff_exists_gap hpolicy hload
  · intro hmissing
    have hspace := harness.space_eq_child hparent units
    rw [hroot] at hspace ⊢
    rw [hspace] at hload
    have hdeclared := contains_of_within (howner.within (LoadedType.within_of_load hload).1)
    refine (howner.home_below_root hload (by simp [hpolicy])).resolve_left fun hhome => ?_
    rw [hhome, hname, Namespace.layer, layer_space, hmissing] at hdeclared
    cases hdeclared

/-- The parent is missing from the payload, and this is the gap. -/
theorem exists_gap_heir : ∃ name found,
    Heir.openSpace.Gap (Plan.ofScenario (Heir.scenario .delegateLast)).request.type name ∧
      Heir.openSpace.load name = .ok found ∧
      found.Reaches ⟨Heir.parent hostNumber "MainAPK", Heir.harness.host⟩ :=
  (home_eq_host_iff_exists_gap rfl rfl rfl Heir.resolve_openSpace rfl).2.1.1 rfl

/-- The prediction fails there: it never names the host where the host is asked last, the host's
parent answers all the same, and the check at the end takes this for a fault. -/
theorem wrongOwner_heir :
    Heir.harness.host = hostNamespace Heir.hostUnits {} ∧
      (Heir.scenario .delegateLast).hasParent = true ∧
      (Heir.scenario .delegateLast).loader = .delegateLast ∧
      (Heir.harness.resolver Heir.openSpace).resolve
        (Plan.ofScenario (Heir.scenario .delegateLast)).request = .ok (Heir.symbol Heir.openSpace) ∧
      (Heir.symbol Heir.openSpace).owner.name =
        (Plan.ofScenario (Heir.scenario .delegateLast)).answering ∧
      ¬ (hostAnswers (Heir.scenario .delegateLast)
          (Plan.ofScenario (Heir.scenario .delegateLast)).answering Heir.hostUnits = true ↔
        (Heir.symbol Heir.openSpace).owner.home = Heir.harness.host) ∧
      ∃ invocation,
        (Heir.harness.caller.invoke (Heir.symbol Heir.openSpace) canonicalArguments []).1 =
          .ok invocation ∧
        (Verdict.ofInvocation invocation
          (Heir.symbol Heir.openSpace).member.key.signature).check
            (Heir.harness.expectedOwner (Heir.scenario .delegateLast)) =
              .error (.wrongOwner "A" "MainAPK") := by
  have hexpected : Heir.harness.expectedOwner (Heir.scenario .delegateLast) = "A" := rfl
  rw [hexpected]
  refine ⟨rfl, rfl, rfl, Heir.resolve_openSpace, rfl, ?_, _, Heir.invoke_symbol, ?_⟩
  · intro hagree
    exact absurd (hagree.2 rfl) (by decide)
  · exact check_echoedCall_of_ne (isCanonical_canonicalCall "secret") (by decide) (by decide)

end Harness

end Linkage
