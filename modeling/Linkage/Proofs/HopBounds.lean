import Linkage.Proofs.Assignability
import Linkage.Proofs.NamespaceClosure

/-!
# The bound on walks

Three walks go up a type's parents under one bound: the one that looks for a member, the one that
gathers defaults, and the one that decides assignability. `LoadedType.Climb` relates a type to the
types that are passed on the way up from it, so that a row that goes on beyond the bound, round in
circles or not, can be spoken of by its first types.

All three walks look at one type more than the bound and are cut when there is a further one
(`LoadedType.findInChain_of_climb`, `LoadedType.collectDefaults_of_climb`,
`LoadedType.isAssignable_of_climb`). On a row that ends exactly there the first two succeed, but the
third is cut as well unless it has said yes (`LoadedType.walks_within_bound`,
`LoadedType.tooManyHops_annex`).
-/

namespace Linkage

namespace LoadedType

/-- A type, the types that are passed on the way up from it, and where the way has led. The
capabilities of the types that are passed load, and so do their parents. -/
inductive Climb : LoadedType → List LoadedType → LoadedType → Prop where
  | here {type : LoadedType} : Climb type [] type
  | step {type above top : LoadedType} {capabilities passed : List LoadedType}
      (capabilities_load : type.capabilities = .ok capabilities)
      (parent_loads : type.parent = .ok (some above))
      (more : Climb above passed top) : Climb type (type :: passed) top

variable {start current above top reference : LoadedType} {key : MemberKey}
  {capabilities passed chain : List LoadedType} {limit left depth maxHops : Nat}

/-! ## Walks that are cut -/

/-- The first walk is cut in front of a parent when no steps are left. -/
theorem findFrom_zero (h : current.unit.instanceMember? key = none)
    (hparent : current.parent = .ok (some above)) :
    findFrom start limit key 0 depth current = .error (start.cut limit) := by
  rw [findFrom.eq_def]
  simp only [h, hparent]

/-- So is the second one. -/
theorem collectFrom_zero {found : List Hit} (hcaps : current.capabilities = .ok capabilities)
    (hparent : current.parent = .ok (some above)) :
    collectFrom start limit key 0 depth found current = .error (start.cut limit) := by
  rw [collectFrom.eq_def]
  simp only [hcaps, hparent]

/-- When there is a further type behind those that the first walk may look at, it finds the first
hit among them or is cut. -/
theorem findFrom_of_climb (climb : current.Climb passed top) (long : passed.length = left + 1) :
    findFrom start limit key left depth current =
      match firstHit? key depth passed with
      | some hit => .ok (some hit)
      | none => .error (start.cut limit) := by
  -- a way of one type more than the steps left is not over before the steps are
  induction climb generalizing left depth with
  | here => cases long
  | @step type above top _ passed _ hparent more ih =>
    cases hmember : type.unit.instanceMember? key with
    | some member => rw [findFrom_of_member hmember, firstHit?_cons_of_some hmember]
    | none =>
      rw [firstHit?_cons_of_none hmember]
      cases left with
      | zero =>
        obtain rfl : passed = [] := List.eq_nil_of_length_eq_zero (Nat.succ.inj long)
        rw [findFrom_zero hmember hparent, firstHit?_nil]
      | succ fewer =>
        rw [findFrom_succ hmember hparent]
        exact ih (Nat.succ.inj long)

/-- The second walk is always cut there. -/
theorem collectFrom_of_climb {found : List Hit} (climb : current.Climb passed top)
    (long : passed.length = left + 1) :
    collectFrom start limit key left depth found current = .error (start.cut limit) := by
  induction climb generalizing left depth found with
  | here => cases long
  | step hcaps hparent more ih =>
    cases left with
    | zero => exact collectFrom_zero hcaps hparent
    | succ fewer =>
      rw [collectFrom_succ hcaps hparent]
      exact ih (Nat.succ.inj long)

/-- The third walk says yes or is cut. It does not ask for the further type. -/
theorem assignableFrom_of_climb (climb : current.Climb passed top)
    (long : passed.length = left + 1) :
    assignableFrom start limit reference left current =
      if StandsFor passed reference then .ok true else .error (.spent start.name limit) := by
  induction climb generalizing left with
  | here => cases long
  | @step type above top _ passed hcaps hparent more ih =>
    by_cases here : type.Shows reference
    · rw [assignableFrom_of_shows hcaps here, if_pos (standsFor_cons.2 (Or.inl here))]
    · cases left with
      | zero =>
        obtain rfl : passed = [] := List.eq_nil_of_length_eq_zero (Nat.succ.inj long)
        rw [assignableFrom_zero hcaps here, if_neg (mt standsFor_singleton.1 here)]
      | succ fewer =>
        rw [assignableFrom_succ hcaps here hparent, ih (Nat.succ.inj long)]
        simp only [standsFor_cons, here, false_or]

theorem findInChain_of_climb (climb : start.Climb passed top)
    (long : passed.length = maxHops + 1) :
    start.findInChain key maxHops =
      match firstHit? key 0 passed with
      | some hit => .ok (some hit)
      | none => .error (start.cut maxHops) :=
  findFrom_of_climb climb long

theorem collectDefaults_of_climb (climb : start.Climb passed top)
    (long : passed.length = maxHops + 1) :
    start.collectDefaults key maxHops = .error (start.cut maxHops) :=
  collectFrom_of_climb climb long

theorem isAssignable_of_climb (climb : start.Climb passed top)
    (long : passed.length = maxHops + 1) (reference : LoadedType) :
    start.isAssignable reference maxHops =
      if StandsFor passed reference then .ok true
      else .error (.spent start.name maxHops) :=
  assignableFrom_of_climb climb long

/-! ## One bound for three walks -/

/-- What the three walks come to under one bound. On a row with no more links than the bound the
walks for members and defaults succeed, and so does the third one if the row stands for the
reference or has fewer links than the bound; with just as many links it is cut instead of saying no.
Where there is a link more than the bound, the third walk can still say yes and the first find a
member among the types in front of that link. Apart from that all three are cut, and below the
largest count this is the report of too many hops (`LoadError.spent_eq_tooManyHops`). -/
theorem walks_within_bound (start : LoadedType) (maxHops : Nat) (key : MemberKey)
    (reference : LoadedType) :
    (∀ chain, start.Ascent chain → chain.length ≤ maxHops + 1 →
      start.findInChain key maxHops = .ok (firstHit? key 0 chain) ∧
      start.collectDefaults key maxHops = .ok (defaultsOn key chain) ∧
      start.isAssignable reference maxHops =
        if StandsFor chain reference then .ok true
        else if chain.length ≤ maxHops then .ok false
        else .error (.spent start.name maxHops)) ∧
    (∀ passed top, start.Climb passed top → passed.length = maxHops + 1 →
      start.findInChain key maxHops =
        (match firstHit? key 0 passed with
        | some hit => .ok (some hit)
        | none => .error (start.cut maxHops)) ∧
      start.collectDefaults key maxHops = .error (start.cut maxHops) ∧
      start.isAssignable reference maxHops =
        if StandsFor passed reference then .ok true
        else .error (.spent start.name maxHops)) := by
  constructor
  · intro chain ascent short
    exact ⟨findInChain_of_ascent ascent short, collectDefaults_of_ascent ascent short,
      isAssignable_of_ascent ascent short reference⟩
  · intro passed top climb long
    exact ⟨findInChain_of_climb climb long, collectDefaults_of_climb climb long,
      isAssignable_of_climb climb long reference⟩

end LoadedType

/-! ## A row that ends at the bound -/

namespace Annex

theorem ascent : LoadedType.Ascent ⟨leaf, house⟩ [⟨leaf, house⟩, ⟨base "house", house⟩] :=
  .step rfl rfl (.top rfl rfl)

/-- A member that no class declares. -/
def absent : MemberKey := ⟨"walk", ⟨[]⟩⟩

end Annex

/-- With a bound that the row just fits, the walk cannot refuse the namesake at the entrance; with
one link less it could not even look at the parent. -/
theorem LoadedType.walks_annex :
    LoadedType.isAssignable ⟨Annex.leaf, Annex.house⟩ ⟨Annex.base "house", Annex.house⟩ 1 =
        .ok true ∧
      LoadedType.collectDefaults ⟨Annex.leaf, Annex.house⟩ Annex.key 0 =
        .error (.load (.tooManyHops ⟨"Leaf"⟩ 0)) := by
  constructor
  · exact ((walks_within_bound _ 1 Annex.key _).1 _ Annex.ascent (by decide)).2.2.trans
      (if_pos (by decide))
  · exact ((walks_within_bound _ 0 Annex.key ⟨Annex.leaf, Annex.house⟩).2 _ _
      (.step rfl rfl .here) rfl).2.1

/-- The row has one link, the bound allows one, and the walks for members and defaults find nothing
and say so. The walk for assignability is cut. -/
theorem LoadedType.tooManyHops_annex :
    LoadedType.Ascent ⟨Annex.leaf, Annex.house⟩
        [⟨Annex.leaf, Annex.house⟩, ⟨Annex.base "house", Annex.house⟩] ∧
      LoadedType.findInChain ⟨Annex.leaf, Annex.house⟩ Annex.absent 1 = .ok none ∧
      LoadedType.collectDefaults ⟨Annex.leaf, Annex.house⟩ Annex.absent 1 = .ok [] ∧
      LoadedType.isAssignable ⟨Annex.leaf, Annex.house⟩ ⟨Annex.base "porch", Annex.porch⟩ 1 =
        .error (.tooManyHops ⟨"Leaf"⟩ 1) := by
  refine ⟨Annex.ascent, rfl, rfl, ?_⟩
  rw [isAssignable_of_ascent Annex.ascent (by decide), if_neg (by decide), if_neg (by decide)]
  rfl

end Linkage
