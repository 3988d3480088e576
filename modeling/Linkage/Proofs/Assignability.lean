import Linkage.Proofs.References
import Linkage.Proofs.Walks

/-!
# Assignability on rows of types

The walk that decides whether an instance can be held as a reference is compared with a row of
types. `LoadedType.StandsFor` says without a walk what the first type of a row can stand for: each
type of the row and the capabilities that each of them lists. On a row of no more types than the
bound the walk decides just that, and on a row of one type more it can still say yes, but not no
(`LoadedType.assignableFrom_of_ascent`).

Types are compared as units (`LoadedType.isAssignable_iff_of_ascent`). `Envoy` is a class whose
parent comes from another layer: it can stand for the capability that its parent sees there, and not
for the namesake in its own layer. Where two namespaces hold one and the same unit, what is loaded
through the one can stand for what is loaded through the other.
-/

namespace Linkage

namespace LoadedType

/-- Whether a type is a reference or lists it as a capability, as the same unit. -/
def Shows (type reference : LoadedType) : Prop :=
  type.SameUnit reference ∨ ∃ capability ∈ type.listed, capability.SameUnit reference

/-- Whether the first type of a row can stand for a reference: a type of the row is the reference or
lists it. -/
def StandsFor (chain : List LoadedType) (reference : LoadedType) : Prop :=
  ∃ type ∈ chain, type.Shows reference

instance (type reference : LoadedType) : Decidable (type.Shows reference) :=
  inferInstanceAs (Decidable (_ ∨ _))

instance (chain : List LoadedType) (reference : LoadedType) :
    Decidable (StandsFor chain reference) :=
  inferInstanceAs (Decidable (∃ type ∈ chain, type.Shows reference))

variable {start current above runtime reference : LoadedType} {capabilities chain : List LoadedType}
  {limit left maxHops : Nat}

theorem mem_listed_iff :
    reference ∈ current.listed ↔
      ∃ capabilities, current.capabilities = .ok capabilities ∧ reference ∈ capabilities := by
  rw [listed]
  cases current.capabilities <;> simp [Except.toOption]

theorem shows_iff_of_capabilities (hcaps : current.capabilities = .ok capabilities) :
    current.Shows reference ↔
      current.SameUnit reference ∨ ∃ capability ∈ capabilities, capability.SameUnit reference := by
  rw [Shows, listed_of_capabilities hcaps]

theorem standsFor_cons :
    StandsFor (current :: chain) reference ↔ current.Shows reference ∨ StandsFor chain reference := by
  simp [StandsFor]

theorem standsFor_singleton : StandsFor [current] reference ↔ current.Shows reference := by
  simp [StandsFor]

/-! ## Steps of the walk -/

/-- The walk ends with yes at a type that is the reference or lists it. -/
theorem assignableFrom_of_shows (hcaps : current.capabilities = .ok capabilities)
    (here : current.Shows reference) :
    assignableFrom start limit reference left current = .ok true := by
  rw [shows_iff_of_capabilities hcaps] at here
  rw [assignableFrom.eq_def]
  dsimp only
  by_cases hsame : current.SameUnit reference
  · rw [if_pos hsame]
  · rw [if_neg hsame, hcaps]
    exact if_pos (here.resolve_left hsame)

/-- Anywhere else the walk is cut when no steps are left. -/
theorem assignableFrom_zero (hcaps : current.capabilities = .ok capabilities)
    (elsewhere : ¬ current.Shows reference) :
    assignableFrom start limit reference 0 current = .error (.spent start.name limit) := by
  rw [shows_iff_of_capabilities hcaps, not_or] at elsewhere
  rw [assignableFrom.eq_def]
  simp only [if_neg elsewhere.1, hcaps, if_neg elsewhere.2]

/-- With a step left it ends with no where there is no parent. -/
theorem assignableFrom_of_no_parent (hcaps : current.capabilities = .ok capabilities)
    (elsewhere : ¬ current.Shows reference) (hparent : current.parent = .ok none) :
    assignableFrom start limit reference (left + 1) current = .ok false := by
  rw [shows_iff_of_capabilities hcaps, not_or] at elsewhere
  rw [assignableFrom.eq_def]
  simp only [if_neg elsewhere.1, hcaps, if_neg elsewhere.2, hparent]

/-- Otherwise it goes on above. -/
theorem assignableFrom_succ (hcaps : current.capabilities = .ok capabilities)
    (elsewhere : ¬ current.Shows reference) (hparent : current.parent = .ok (some above)) :
    assignableFrom start limit reference (left + 1) current =
      assignableFrom start limit reference left above := by
  rw [shows_iff_of_capabilities hcaps, not_or] at elsewhere
  rw [assignableFrom.eq_def]
  simp only [if_neg elsewhere.1, hcaps, if_neg elsewhere.2, hparent]

/-! ## Walks on rows -/

/-- On a row of at most one type more than there are steps left, the walk says yes exactly when the
row stands for the reference. To say no it needs a step for each type, the last one included. -/
theorem assignableFrom_of_ascent (ascent : current.Ascent chain) (short : chain.length ≤ left + 1) :
    assignableFrom start limit reference left current =
      if StandsFor chain reference then .ok true
      else if chain.length ≤ left then .ok false
      else .error (.spent start.name limit) := by
  -- a type above is looked at with a step less, so the steps left vary along the row
  induction ascent generalizing left with
  | @top type _ hcaps hparent =>
    by_cases here : type.Shows reference
    · rw [assignableFrom_of_shows hcaps here, if_pos (standsFor_singleton.2 here)]
    · rw [if_neg (mt standsFor_singleton.1 here), List.length_singleton]
      cases left with
      | zero => exact assignableFrom_zero hcaps here
      | succ fewer =>
        -- the step that is spent here leads nowhere: only after it is the parent asked for
        rw [if_pos (Nat.succ_le_succ (Nat.zero_le fewer))]
        exact assignableFrom_of_no_parent hcaps here hparent
  | @step type above _ chain hcaps hparent more ih =>
    by_cases here : type.Shows reference
    · rw [assignableFrom_of_shows hcaps here, if_pos (standsFor_cons.2 (Or.inl here))]
    · obtain ⟨fewer, rfl, hfewer⟩ := more.exists_step short
      rw [assignableFrom_succ hcaps here hparent, ih hfewer]
      simp only [standsFor_cons, here, false_or, List.length_cons, Nat.add_le_add_iff_right]

theorem isAssignable_of_ascent (ascent : runtime.Ascent chain)
    (short : chain.length ≤ maxHops + 1) (reference : LoadedType) :
    runtime.isAssignable reference maxHops =
      if StandsFor chain reference then .ok true
      else if chain.length ≤ maxHops then .ok false
      else .error (.spent runtime.name maxHops) :=
  assignableFrom_of_ascent ascent short

/-- On a row that is no longer than the walk may be, yes means that the row stands for the
reference. -/
theorem isAssignable_eq_true_iff (ascent : runtime.Ascent chain)
    (short : chain.length ≤ maxHops + 1) :
    runtime.isAssignable reference maxHops = .ok true ↔ StandsFor chain reference := by
  rw [isAssignable_of_ascent ascent short]
  by_cases hstands : StandsFor chain reference
  · simp [hstands]
  · by_cases hlength : chain.length ≤ maxHops <;> simp [hstands, hlength]

/-- The walk says yes at a type that is the reference or lists it, or else above. -/
theorem shows_or_above_of_assignableFrom
    (h : assignableFrom start limit reference left current = .ok true) :
    current.Shows reference ∨
      ∃ above fewer, current.parent = .ok (some above) ∧
        assignableFrom start limit reference fewer above = .ok true := by
  rcases assignableFrom_eq_true h with hsame | ⟨_, hcaps, hmem⟩ | ⟨above, fewer, hparent, -, hmore⟩
  · exact Or.inl (Or.inl hsame)
  · exact Or.inl ((shows_iff_of_capabilities hcaps).2 (Or.inr hmem))
  · exact Or.inr ⟨above, fewer, hparent, hmore⟩

/-- A yes means that the row stands for the reference, however long the row is. -/
theorem standsFor_of_assignableFrom (ascent : current.Ascent chain)
    (h : assignableFrom start limit reference left current = .ok true) :
    StandsFor chain reference := by
  induction ascent generalizing left with
  | top _ hparent =>
    rcases shows_or_above_of_assignableFrom h with here | ⟨_, _, hother, -⟩
    · exact standsFor_singleton.2 here
    · cases hparent.symm.trans hother
  | step _ hparent _ ih =>
    rcases shows_or_above_of_assignableFrom h with here | ⟨_, _, hother, hmore⟩
    · exact standsFor_cons.2 (Or.inl here)
    · cases hparent.symm.trans hother
      exact standsFor_cons.2 (Or.inr (ih hmore))

/-! ## Identity -/

/-- What is reached from a declared type is declared by a namespace visible from the type's home. -/
theorem Reaches.within_home {type : LoadedType} (h : start.Reaches type)
    (declared : start.home.own? start.name = some start) : type.Within start.home :=
  h.within ⟨start.home.mem_visible, declared⟩

/-- An instance can only be held as a unit that is declared by a namespace visible from the home of
the instance's type. -/
theorem exists_within_of_isAssignable (declared : runtime.home.own? runtime.name = some runtime)
    (h : runtime.isAssignable reference maxHops = .ok true) :
    ∃ type : LoadedType, type.Within runtime.home ∧ type.SameUnit reference := by
  obtain ⟨type, hreached, hsame⟩ := reaches_of_isAssignable h
  exact ⟨type, hreached.within_home declared, hsame⟩

end LoadedType

/-! ## A class between two layers -/

namespace Envoy

/-- A capability that both layers declare, each time as another unit. -/
def badge (stamp : Nat) : CodeUnit :=
  ⟨⟨stamp, ⟨"Badge"⟩, .interface, none, [], []⟩, Declaration.fault?_eq_none_iff.1 rfl⟩

/-- A class of the upper layer that lists the capability. -/
def officer : CodeUnit where
  id := ⟨0, ⟨"Officer"⟩, .concreteClass, none, [⟨"Badge"⟩], []⟩
  valid := Declaration.fault?_eq_none_iff.1 (by decide)

/-- A class of the lower layer, whose parent only the upper layer declares. -/
def envoy : CodeUnit where
  id := ⟨1, ⟨"Envoy"⟩, .concreteClass, some ⟨"Officer"⟩, [], []⟩
  valid := Declaration.fault?_eq_none_iff.1 (by decide)

/-- The upper layer. -/
def state : Namespace := .root ⟨1, "state", .isolated, ⟨[badge 0, officer], by decide⟩, 32⟩

/-- The lower layer, which asks itself first. -/
def mission : Namespace :=
  .child ⟨0, "mission", .childFirst, ⟨[badge 1, envoy], by decide⟩, 32⟩ state

theorem ascent : LoadedType.Ascent ⟨envoy, mission⟩ [⟨envoy, mission⟩, ⟨officer, state⟩] :=
  .step rfl rfl (.top rfl rfl)

theorem loaded : LoadedType.Within ⟨envoy, mission⟩ mission := ⟨mission.mem_visible, rfl⟩

end Envoy

/-- Another namespace over the registry of the upper layer loads the same units. -/
example : LoadedType.isAssignable ⟨Envoy.envoy, Envoy.mission⟩
    ⟨Envoy.badge 0, .root ⟨2, "copy", .isolated, Envoy.state.layer.units, 32⟩⟩ 2 = .ok true := rfl

end Linkage
