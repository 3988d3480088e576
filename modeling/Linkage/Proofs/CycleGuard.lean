import Linkage.Proofs.FactorySlots
import Linkage.Proofs.HopBounds
import Linkage.Proofs.SelfShadowing
import Mathlib.Data.Fintype.Pigeonhole
import Mathlib.Data.Set.Finite.List

/-!
# The bound as a guard against circles

Parents are names, and names may lead round in a circle. Nothing looks for circles: a walk is cut
when it would go further than its bound, and `LoadedType.ancestor?` says by counting links what that
comes to. A way up on which everything loads has a first part within the bound, and either it is over
there or there is a further type (`LoadedType.LoadsUp.ascent_or_climb`). Which of the two it is
decides between an answer and the cut, and nothing else does.

A way up that never ends goes round in a circle, because the namespaces that are visible from a home
declare finitely many types (`LoadedType.endless_iff_circular`). On such a way every call that finds
no member is cut, whatever the bound (`LoadedType.LoadsUp.guarded`). Under the largest bound there
is, to be cut is to go on for ever (`LoadedType.endless_ring`).
-/

namespace Linkage

namespace LoadedType

/-- The type that lies a number of links above a type, if the way up is that long. -/
def ancestor? : Nat → LoadedType → Option LoadedType
  | 0, type => some type
  | links + 1, type => match type.parent with
    | .ok (some above) => ancestor? links above
    | _ => none

/-- Whether everything on the way up from a type loads. -/
def LoadsUp (start : LoadedType) : Prop :=
  ∀ links type, start.ancestor? links = some type →
    (∃ parent, type.parent = .ok parent) ∧ ∃ capabilities, type.capabilities = .ok capabilities

/-- Whether the way up from a type is over after a number of links. -/
def EndsWithin (start : LoadedType) (links : Nat) : Prop := start.ancestor? (links + 1) = none

/-- Whether no type less than a number of links above a type declares an instance member under a
key. -/
def SilentBelow (start : LoadedType) (key : MemberKey) (links : Nat) : Prop :=
  ∀ below < links, ∀ type, start.ancestor? below = some type →
    type.unit.instanceMember? key = none

/-- Whether neither a type nor one above it declares an instance member under a key. -/
def Silent (start : LoadedType) (key : MemberKey) : Prop :=
  ∀ type, type = start ∨ start.Above type → type.unit.instanceMember? key = none

/-- Whether a hit is the first instance member under a key on the way up from a type, at the depth
where it lies. -/
structure FirstHit (start : LoadedType) (key : MemberKey) (hit : Hit) : Prop where
  owner_at_depth : start.ancestor? hit.depth = some hit.owner
  member_declared : hit.owner.unit.instanceMember? key = some hit.member
  silent_below : start.SilentBelow key hit.depth

/-- Whether the way up from a type never ends. -/
def Endless (start : LoadedType) : Prop := ∀ links, (start.ancestor? links).isSome = true

/-- Whether the way up from a type leads into a circle. -/
def Circular (start : LoadedType) : Prop :=
  ∃ type, (type = start ∨ start.Above type) ∧ type.Above type

/-- How a bound decides what comes of the walks up from a type and of the calls on it. -/
structure Guarded (start : LoadedType) (key : MemberKey) (maxHops : Nat) : Prop where
  /-- A member is found if it is the first one and within the bound, at its depth. -/
  found_iff : ∀ hit, start.findInChain key maxHops = .ok (some hit) ↔
    hit.depth ≤ maxHops ∧ start.FirstHit key hit
  /-- None is found if the way up is over within the bound without one. -/
  none_iff : start.findInChain key maxHops = .ok none ↔
    start.EndsWithin maxHops ∧ start.SilentBelow key (maxHops + 1)
  /-- In all other cases the walk is cut. -/
  error_iff : ∀ error, start.findInChain key maxHops = .error error ↔
    error = start.cut maxHops ∧ ¬ start.EndsWithin maxHops ∧
      start.SilentBelow key (maxHops + 1)
  /-- Defaults are collected if the way up is over within the bound. -/
  collected_iff : (∃ hits, start.collectDefaults key maxHops = .ok hits) ↔ start.EndsWithin maxHops
  /-- Otherwise that walk is cut, whatever it has found. -/
  not_collected_iff : ∀ error, start.collectDefaults key maxHops = .error error ↔
    error = start.cut maxHops ∧ ¬ start.EndsWithin maxHops
  /-- A way up never ends if it leads into a circle, and only then. -/
  endless_iff : start.Endless ↔ start.Circular
  /-- On such a way a call on an instance that misses is cut. -/
  instance_cut : start.Circular → start.Silent key → ∀ resolver : Resolver,
    resolver.maxHops = maxHops → ∀ type dispatch held withDefaults,
    resolver.space.load type = .ok start →
    resolver.InstanceCall key dispatch held withDefaults →
      resolver.resolve ⟨type, key, dispatch⟩ = .error (start.cut maxHops)
  /-- So is one through a reference that misses, whatever the instance is. -/
  reference_cut : start.Circular → start.Silent key → ∀ resolver : Resolver,
    resolver.maxHops = maxHops → ∀ type target via, resolver.space.load type = .ok target →
    resolver.caller.load via = .ok start →
      resolver.resolve ⟨type, key, .factory via⟩ = .error (start.cut maxHops)
  /-- And a direct call, which does not go on to look for a static member. -/
  direct_cut : start.Circular → start.Silent key → ∀ space : Namespace,
    space.layer.maxHops = maxHops → ∀ type, space.load type = .ok start →
      space.resolve type key = .error (start.cut maxHops)
  /-- To be cut is to be told that the bound was exceeded, if there is a count that exceeds it. -/
  told : maxHops < LoadError.largestCount →
    start.cut maxHops = .load (.tooManyHops start.name maxHops)
  /-- If there is none, nothing is told, and the walk goes on. -/
  untold : LoadError.largestCount ≤ maxHops → start.cut maxHops = .load (.endless start.name)

variable {start current type above top : LoadedType} {key : MemberKey} {hit : Hit}
  {chain passed : List LoadedType} {links more maxHops : Nat}

/-! ## Counting links -/

theorem ancestor?_succ_of_parent (h : type.parent = .ok (some above)) (links : Nat) :
    type.ancestor? (links + 1) = above.ancestor? links := by
  rw [ancestor?, h]

theorem ancestor?_succ_of_no_parent (h : type.parent = .ok none) (links : Nat) :
    type.ancestor? (links + 1) = none := by
  rw [ancestor?, h]

/-- There is a link only where a parent loads. -/
theorem exists_parent_of_ancestor?_succ (h : type.ancestor? (links + 1) = some top) :
    ∃ above, type.parent = .ok (some above) ∧ above.ancestor? links = some top := by
  rw [ancestor?] at h
  split at h
  · next above hparent => exact ⟨above, hparent, h⟩
  · cases h

/-- Links are counted on from wherever the way has led. -/
theorem ancestor?_add (first : Nat) (start : LoadedType) :
    start.ancestor? (first + more) = (start.ancestor? first).bind (ancestor? more) := by
  induction first generalizing start with
  | zero => rw [Nat.zero_add, ancestor?, Option.bind_some]
  | succ first ih =>
    rw [Nat.add_right_comm, ancestor?, ancestor?]
    split
    · exact ih _
    · rfl

/-- A way up passes all that is nearer than where it leads. -/
theorem isSome_ancestor?_of_le (h : (start.ancestor? more).isSome = true) (hle : links ≤ more) :
    (start.ancestor? links).isSome = true := by
  obtain ⟨further, rfl⟩ := Nat.exists_eq_add_of_le hle
  rw [ancestor?_add] at h
  exact Option.isSome_of_isSome_bind h

/-- What lies above a type lies some links above it. -/
theorem above_iff_exists_ancestor? :
    type.Above top ↔ ∃ links, type.ancestor? (links + 1) = some top := by
  constructor
  · intro h
    induction h with
    | parent parent_loads => exact ⟨0, ancestor?_succ_of_parent parent_loads 0⟩
    | further parent_loads _ ih =>
      obtain ⟨links, hlinks⟩ := ih
      exact ⟨links + 1, (ancestor?_succ_of_parent parent_loads (links + 1)).trans hlinks⟩
  · rintro ⟨links, h⟩
    induction links generalizing type with
    | zero =>
      obtain ⟨above, hparent, h⟩ := exists_parent_of_ancestor?_succ h
      cases h
      exact .parent hparent
    | succ links ih =>
      obtain ⟨above, hparent, h⟩ := exists_parent_of_ancestor?_succ h
      exact .further hparent (ih h)

/-! ## Circles -/

/-- The types that a namespace sees. -/
def seen (space : Namespace) : List LoadedType :=
  space.visible.flatMap fun home => home.layer.units.units.map fun unit => ⟨unit, home⟩

theorem Within.mem_seen {space : Namespace} (h : type.Within space) : type ∈ seen space :=
  List.mem_flatMap.2 ⟨type.home, h.home_visible, List.mem_map.2 ⟨type.unit, h.mem_units, rfl⟩⟩

/-- A type above another one is within the home of that one. -/
theorem Above.within_home (h : type.Above top) : top.Within type.home := by
  have hparent : ∀ {type above : LoadedType}, type.parent = .ok (some above) →
      above.Within type.home := by
    intro type above hparent
    obtain ⟨name, -, hload⟩ := exists_load_of_parent hparent
    exact (within_of_load hload).1
  induction h with
  | parent parent_loads => exact hparent parent_loads
  | further parent_loads _ ih => exact ih.trans (hparent parent_loads).home_visible

/-- Round a circle the way goes on as long as one likes. -/
theorem Circular.endless (h : start.Circular) : start.Endless := by
  obtain ⟨type, hreached, hcircle⟩ := h
  obtain ⟨period, hperiod⟩ := above_iff_exists_ancestor?.1 hcircle
  -- every round leads back to where it began
  have hround : ∀ rounds, type.ancestor? (rounds * (period + 1)) = some type := by
    intro rounds
    induction rounds with
    | zero => rw [Nat.zero_mul, ancestor?]
    | succ rounds ih => rw [Nat.succ_mul, ancestor?_add, ih, Option.bind_some, hperiod]
  have htype : ∀ links, (type.ancestor? links).isSome = true := by
    intro links
    have hrounds : (type.ancestor? (links * (period + 1))).isSome = true := by
      rw [hround]
      rfl
    exact isSome_ancestor?_of_le hrounds (Nat.le_mul_of_pos_right _ (Nat.succ_pos period))
  intro links
  rcases hreached with rfl | habove
  · exact htype links
  · obtain ⟨first, hfirst⟩ := above_iff_exists_ancestor?.1 habove
    have hfurther : (start.ancestor? (first + 1 + links)).isSome = true := by
      rw [ancestor?_add, hfirst]
      exact htype links
    exact isSome_ancestor?_of_le hfurther (Nat.le_add_left _ _)

/-- A way up that never ends comes back to one of the finitely many types that are seen. -/
theorem Endless.circular (h : start.Endless) : start.Circular := by
  have hseen : ∀ links, ∃ type ∈ seen start.home, start.ancestor? (links + 1) = some type := by
    intro links
    obtain ⟨type, htype⟩ := Option.isSome_iff_exists.1 (h (links + 1))
    exact ⟨type, (above_iff_exists_ancestor?.2 ⟨links, htype⟩).within_home.mem_seen, htype⟩
  choose place hplace hreached using hseen
  have hfinite : Finite {type // type ∈ seen start.home} :=
    (seen start.home).finite_toSet.to_subtype
  obtain ⟨first, second, hne, heq⟩ := Finite.exists_ne_map_eq_of_infinite
    fun links => (⟨place links, hplace links⟩ : {type // type ∈ seen start.home})
  have heq : place first = place second := congrArg Subtype.val heq
  -- between two visits of a type lies a way from it to itself
  have hcircle : ∀ {near far}, near < far → place near = place far → start.Circular := by
    intro near far hlt hsame
    obtain ⟨further, rfl⟩ := Nat.exists_eq_add_of_lt hlt
    refine ⟨place near, Or.inr (above_iff_exists_ancestor?.2 ⟨near, hreached near⟩), ?_⟩
    refine above_iff_exists_ancestor?.2 ⟨further, ?_⟩
    have hfar : start.ancestor? (near + 1 + (further + 1)) = some (place near) := by
      rw [hsame, ← hreached (near + further + 1)]
      congr 1
      omega
    rw [ancestor?_add, hreached near, Option.bind_some] at hfar
    exact hfar
  rcases Nat.lt_or_gt_of_ne hne with hlt | hlt
  · exact hcircle hlt heq
  · exact hcircle hlt heq.symm

theorem endless_iff_circular : start.Endless ↔ start.Circular :=
  ⟨Endless.circular, Circular.endless⟩

/-! ## The part within the bound -/

theorem LoadsUp.of_parent (loads : type.LoadsUp) (hparent : type.parent = .ok (some above)) :
    above.LoadsUp := fun links _ h =>
  loads (links + 1) _ ((ancestor?_succ_of_parent hparent links).trans h)

/-- A way up on which everything loads is over within the bound, or there is a further type. -/
theorem LoadsUp.ascent_or_climb (loads : start.LoadsUp) (maxHops : Nat) :
    (∃ chain, start.Ascent chain ∧ chain.length ≤ maxHops + 1) ∨
      ∃ passed top, start.Climb passed top ∧ passed.length = maxHops + 1 := by
  -- each link costs one step of the bound, and the rest of the way is that of the parent
  induction maxHops generalizing start with
  | zero =>
    obtain ⟨⟨parent, hparent⟩, capabilities, hcaps⟩ := loads 0 start rfl
    cases parent with
    | none => exact Or.inl ⟨[start], .top hcaps hparent, Nat.le_refl 1⟩
    | some above => exact Or.inr ⟨[start], above, .step hcaps hparent .here, rfl⟩
  | succ fewer ih =>
    obtain ⟨⟨parent, hparent⟩, capabilities, hcaps⟩ := loads 0 start rfl
    cases parent with
    | none => exact Or.inl ⟨[start], .top hcaps hparent, Nat.succ_le_succ (Nat.zero_le _)⟩
    | some above =>
      rcases ih (loads.of_parent hparent) with ⟨chain, ascent, short⟩ | ⟨passed, top, climb, long⟩
      · exact Or.inl ⟨start :: chain, .step hcaps hparent ascent, Nat.succ_le_succ short⟩
      · exact Or.inr ⟨start :: passed, top, .step hcaps hparent climb, congrArg Nat.succ long⟩

/-- A row of types lists the way up. -/
theorem Ascent.ancestor?_eq (ascent : start.Ascent chain) (links : Nat) :
    start.ancestor? links = chain[links]? := by
  induction ascent generalizing links with
  | top _ hparent =>
    cases links with
    | zero => rfl
    | succ links =>
      rw [ancestor?_succ_of_no_parent hparent, List.getElem?_cons_succ, List.getElem?_nil]
  | step _ hparent _ ih =>
    cases links with
    | zero => rfl
    | succ links => rw [ancestor?_succ_of_parent hparent, List.getElem?_cons_succ, ih]

/-- The types that are passed are the first ones on the way up, and the next one is where it has
led. -/
theorem Climb.ancestor?_eq (climb : start.Climb passed top) :
    (∀ links < passed.length, start.ancestor? links = passed[links]?) ∧
      start.ancestor? passed.length = some top := by
  induction climb with
  | here => exact ⟨fun links hlinks => absurd hlinks (Nat.not_lt_zero links), rfl⟩
  | step _ hparent _ ih =>
    obtain ⟨hpassed, htop⟩ := ih
    refine ⟨fun links hlinks => ?_, (ancestor?_succ_of_parent hparent _).trans htop⟩
    cases links with
    | zero => rfl
    | succ links =>
      rw [ancestor?_succ_of_parent hparent, List.getElem?_cons_succ]
      exact hpassed links (Nat.lt_of_succ_lt_succ hlinks)

/-- The first hit of a row is the first of its types that declares a member, at its place. -/
theorem firstHit?_eq_some_iff {depth : Nat} :
    firstHit? key depth passed = some hit ↔ ∃ links, hit.depth = depth + links ∧
      passed[links]? = some hit.owner ∧ hit.owner.unit.instanceMember? key = some hit.member ∧
      ∀ below < links, ∀ type, passed[below]? = some type →
        type.unit.instanceMember? key = none := by
  induction passed generalizing depth with
  | nil => simp [firstHit?_nil]
  | cons type rest ih =>
    cases hmember : type.unit.instanceMember? key with
    | some member =>
      -- the type itself is the hit, and no later one can be
      rw [firstHit?_cons_of_some hmember]
      constructor
      · rintro ⟨⟩
        exact ⟨0, rfl, rfl, hmember, fun below hbelow => absurd hbelow (Nat.not_lt_zero below)⟩
      · rintro ⟨links, hdepth, howner, hdeclared, hsilent⟩
        cases links with
        | zero =>
          obtain ⟨owner, found, place⟩ := hit
          cases howner
          cases hmember.symm.trans hdeclared
          cases hdepth
          rfl
        | succ links => cases hmember.symm.trans (hsilent 0 (Nat.succ_pos links) type rfl)
    | none =>
      -- the hit is one of the rest, where every place is one less
      rw [firstHit?_cons_of_none hmember, ih]
      constructor
      · rintro ⟨links, hdepth, howner, hdeclared, hsilent⟩
        refine ⟨links + 1, by omega, howner, hdeclared, fun below hbelow other hother => ?_⟩
        cases below with
        | zero =>
          cases hother
          exact hmember
        | succ below => exact hsilent below (Nat.lt_of_succ_lt_succ hbelow) other hother
      · rintro ⟨links, hdepth, howner, hdeclared, hsilent⟩
        cases links with
        | zero =>
          cases howner
          cases hmember.symm.trans hdeclared
        | succ links =>
          refine ⟨links, by omega, howner, hdeclared, fun below hbelow other hother => ?_⟩
          exact hsilent (below + 1) (Nat.succ_lt_succ hbelow) other hother

/-- What both walks come to under a bound, by the types that the bound lets them look at. -/
theorem LoadsUp.walks (loads : start.LoadsUp) (key : MemberKey) (maxHops : Nat) :
    ∃ passed : List LoadedType, (∀ links ≤ maxHops, start.ancestor? links = passed[links]?) ∧
      passed.length ≤ maxHops + 1 ∧
      (start.EndsWithin maxHops ∧
          start.findInChain key maxHops = .ok (firstHit? key 0 passed) ∧
          start.collectDefaults key maxHops = .ok (defaultsOn key passed) ∨
        ¬ start.EndsWithin maxHops ∧
          start.findInChain key maxHops = (match firstHit? key 0 passed with
            | some hit => .ok (some hit)
            | none => .error (start.cut maxHops)) ∧
          start.collectDefaults key maxHops = .error (start.cut maxHops)) := by
  rcases loads.ascent_or_climb maxHops with ⟨chain, ascent, short⟩ | ⟨passed, top, climb, long⟩
  · refine ⟨chain, fun links _ => ascent.ancestor?_eq links, short, Or.inl ⟨?_, ?_, ?_⟩⟩
    · rw [EndsWithin, ascent.ancestor?_eq, List.getElem?_eq_none short]
    · exact findInChain_of_ascent ascent short
    · exact collectDefaults_of_ascent ascent short
  · obtain ⟨hpassed, htop⟩ := climb.ancestor?_eq
    refine ⟨passed, fun links hlinks => hpassed links (by omega), Nat.le_of_eq long,
      Or.inr ⟨?_, ?_, ?_⟩⟩
    · rw [EndsWithin, ← long, htop]
      exact Option.some_ne_none top
    · exact findInChain_of_climb climb long
    · exact collectDefaults_of_climb climb long

variable (passed_eq : ∀ links ≤ maxHops, start.ancestor? links = passed[links]?)
  (short : passed.length ≤ maxHops + 1)

include passed_eq short in
/-- The first hit among the types within the bound is the first one on the way up, if it is not
further away. -/
theorem firstHit?_eq_some_iff_firstHit :
    firstHit? key 0 passed = some hit ↔ hit.depth ≤ maxHops ∧ start.FirstHit key hit := by
  rw [firstHit?_eq_some_iff]
  constructor
  · rintro ⟨links, hdepth, howner, hdeclared, hsilent⟩
    obtain rfl : hit.depth = links := by rw [hdepth, Nat.zero_add]
    have hnear : hit.depth ≤ maxHops := by
      have hlt : hit.depth < passed.length := (List.getElem?_eq_some_iff.1 howner).1
      omega
    refine ⟨hnear, (passed_eq _ hnear).trans howner, hdeclared, fun below hbelow type htype => ?_⟩
    exact hsilent below hbelow type ((passed_eq below (by omega)).symm.trans htype)
  · rintro ⟨hnear, howner, hdeclared, hsilent⟩
    refine ⟨hit.depth, (Nat.zero_add _).symm, (passed_eq _ hnear).symm.trans howner, hdeclared,
      fun below hbelow type htype => ?_⟩
    exact hsilent below hbelow type ((passed_eq below (by omega)).trans htype)

include passed_eq short in
/-- There is none exactly where no type within the bound declares a member. -/
theorem firstHit?_eq_none_iff_silentBelow :
    firstHit? key 0 passed = none ↔ start.SilentBelow key (maxHops + 1) := by
  rw [firstHit?_eq_none_iff]
  constructor
  · intro hsilent below hbelow type htype
    exact hsilent type (List.mem_of_getElem? ((passed_eq below (by omega)).symm.trans htype))
  · intro hsilent type htype
    obtain ⟨place, hplace, htype⟩ := List.getElem_of_mem htype
    refine hsilent place (by omega) type ?_
    rw [passed_eq place (by omega), List.getElem?_eq_getElem hplace, htype]

/-! ## What the bound decides -/

theorem LoadsUp.findInChain_eq_some_iff (loads : start.LoadsUp) :
    start.findInChain key maxHops = .ok (some hit) ↔
      hit.depth ≤ maxHops ∧ start.FirstHit key hit := by
  obtain ⟨passed, passed_eq, short, hwalks⟩ := loads.walks key maxHops
  rw [← firstHit?_eq_some_iff_firstHit passed_eq short]
  rcases hwalks with ⟨-, hfound, -⟩ | ⟨-, hfound, -⟩
  · rw [hfound, Except.ok.injEq]
  · rw [hfound]
    cases firstHit? key 0 passed <;> simp

theorem LoadsUp.findInChain_eq_none_iff (loads : start.LoadsUp) :
    start.findInChain key maxHops = .ok none ↔
      start.EndsWithin maxHops ∧ start.SilentBelow key (maxHops + 1) := by
  obtain ⟨passed, passed_eq, short, hwalks⟩ := loads.walks key maxHops
  rw [← firstHit?_eq_none_iff_silentBelow passed_eq short]
  rcases hwalks with ⟨hends, hfound, -⟩ | ⟨hends, hfound, -⟩
  · simp [hfound, hends]
  · rw [hfound]
    cases firstHit? key 0 passed <;> simp [hends]

theorem LoadsUp.findInChain_eq_error_iff (loads : start.LoadsUp) {error : BindingError} :
    start.findInChain key maxHops = .error error ↔
      error = start.cut maxHops ∧ ¬ start.EndsWithin maxHops ∧
        start.SilentBelow key (maxHops + 1) := by
  obtain ⟨passed, passed_eq, short, hwalks⟩ := loads.walks key maxHops
  rw [← firstHit?_eq_none_iff_silentBelow passed_eq short]
  rcases hwalks with ⟨hends, hfound, -⟩ | ⟨hends, hfound, -⟩
  · simp [hfound, hends]
  · rw [hfound]
    cases firstHit? key 0 passed <;> simp [hends, eq_comm]

theorem LoadsUp.exists_collectDefaults_iff (loads : start.LoadsUp) :
    (∃ hits, start.collectDefaults key maxHops = .ok hits) ↔ start.EndsWithin maxHops := by
  obtain ⟨passed, -, -, ⟨hends, -, hhits⟩ | ⟨hends, -, hhits⟩⟩ := loads.walks key maxHops
  · simp [hhits, hends]
  · simp [hhits, hends]

theorem LoadsUp.collectDefaults_eq_error_iff (loads : start.LoadsUp) {error : BindingError} :
    start.collectDefaults key maxHops = .error error ↔
      error = start.cut maxHops ∧ ¬ start.EndsWithin maxHops := by
  obtain ⟨passed, -, -, ⟨hends, -, hhits⟩ | ⟨hends, -, hhits⟩⟩ := loads.walks key maxHops
  · simp [hhits, hends]
  · simp [hhits, hends, eq_comm]

/-! ## Calls that are cut -/

theorem cut_eq_tooManyHops (h : maxHops < LoadError.largestCount) :
    start.cut maxHops = .load (.tooManyHops start.name maxHops) := by
  rw [cut, LoadError.spent_eq_tooManyHops h]

theorem cut_eq_endless (h : LoadError.largestCount ≤ maxHops) :
    start.cut maxHops = .load (.endless start.name) := by
  rw [cut, LoadError.spent_eq_endless h]

theorem Silent.silentBelow (h : start.Silent key) (links : Nat) : start.SilentBelow key links := by
  intro below _ type htype
  cases below with
  | zero =>
    cases htype
    exact h start (Or.inl rfl)
  | succ below => exact h type (Or.inr (above_iff_exists_ancestor?.2 ⟨below, htype⟩))

/-- In a circle without a member the walk is cut, whatever the bound. -/
theorem LoadsUp.findInChain_of_circular (loads : start.LoadsUp) (circular : start.Circular)
    (silent : start.Silent key) (maxHops : Nat) :
    start.findInChain key maxHops = .error (start.cut maxHops) := by
  refine loads.findInChain_eq_error_iff.2 ⟨rfl, fun hends => ?_, silent.silentBelow _⟩
  have hmore := circular.endless (maxHops + 1)
  rw [hends] at hmore
  cases hmore

end LoadedType

namespace Resolver

variable {resolver : Resolver} {target reference : LoadedType} {key : MemberKey}
  {dispatch : Dispatch} {held : Option LoadedType} {withDefaults : Bool} {error : BindingError}

/-- A walk that fails is the failure of every call on the instance. -/
theorem InstanceCall.bind_of_error (call : resolver.InstanceCall key dispatch held withDefaults)
    (h : target.findInChain key resolver.maxHops = .error error) :
    resolver.bind target key dispatch = .error error := by
  rw [call.bind_eq, LoadedType.bindInstance_of_error h, Except.error_bind]

/-- And of every call through a reference whose walk it is. -/
theorem bind_factory_of_error {via : QualifiedName}
    (hvia : resolver.caller.load via = .ok reference)
    (h : reference.findInChain key resolver.maxHops = .error error) :
    resolver.bind target key (.factory via) = .error error := by
  have hloads : loadIn resolver.caller via = .ok reference := Except.mapError_eq_ok_iff.2 hvia
  rw [bind, hloads, Except.ok_bind, LoadedType.hasSlot, h]
  rfl

end Resolver

namespace LoadedType

variable {start : LoadedType}

/-- The bound is exact on every way up on which all parents and capabilities load. -/
theorem LoadsUp.guarded (loads : start.LoadsUp) (key : MemberKey) (maxHops : Nat) :
    start.Guarded key maxHops where
  found_iff _ := loads.findInChain_eq_some_iff
  none_iff := loads.findInChain_eq_none_iff
  error_iff _ := loads.findInChain_eq_error_iff
  collected_iff := loads.exists_collectDefaults_iff
  not_collected_iff _ := loads.collectDefaults_eq_error_iff
  endless_iff := endless_iff_circular
  instance_cut := by
    rintro circular silent resolver rfl type dispatch held withDefaults hload call
    rw [Resolver.resolve_of_load hload]
    exact call.bind_of_error (loads.findInChain_of_circular circular silent _)
  reference_cut := by
    rintro circular silent resolver rfl type target via hload hvia
    rw [Resolver.resolve_of_load hload]
    exact Resolver.bind_factory_of_error hvia (loads.findInChain_of_circular circular silent _)
  direct_cut := by
    rintro circular silent space rfl type hload
    have hvirtual : (Resolver.ofNamespace space).resolve ⟨type, key, .virtual⟩ =
        .error (start.cut space.layer.maxHops) := by
      rw [Resolver.resolve_of_load hload]
      exact Resolver.InstanceCall.virtual.bind_of_error
        (loads.findInChain_of_circular circular silent _)
    rw [Namespace.resolve, hvirtual]
    rfl
  told := cut_eq_tooManyHops
  untold := cut_eq_endless

end LoadedType

/-! ## A circle and its bound -/

namespace Ring

/-- A member that neither class declares. -/
def absent : MemberKey := ⟨"walk", ⟨[]⟩⟩

theorem eq_head_or_tail_of_ancestor? {links : Nat} {type : LoadedType}
    (h : LoadedType.ancestor? links ⟨tail, space⟩ = some type) :
    type = ⟨head, space⟩ ∨ type = ⟨tail, space⟩ := by
  cases links with
  | zero =>
    cases h
    exact Or.inr rfl
  | succ links =>
    exact eq_head_or_tail_of_above (Or.inr rfl)
      (LoadedType.above_iff_exists_ancestor?.2 ⟨links, h⟩)

theorem loadsUp : LoadedType.LoadsUp ⟨tail, space⟩ := by
  intro links type h
  rcases eq_head_or_tail_of_ancestor? h with rfl | rfl
  · exact ⟨⟨_, parent_head⟩, [], rfl⟩
  · exact ⟨⟨_, parent_tail⟩, [], rfl⟩

theorem circular : LoadedType.Circular ⟨tail, space⟩ :=
  ⟨⟨head, space⟩, Or.inr (.parent parent_tail), only_head.1⟩

theorem silent : LoadedType.Silent ⟨tail, space⟩ absent := by
  rintro type (rfl | habove)
  · rfl
  · rcases eq_head_or_tail_of_above (Or.inr rfl) habove with rfl | rfl
    · rfl
    · rfl

/-- The class in between does not declare the member itself. -/
theorem silentBelow_one : LoadedType.SilentBelow ⟨tail, space⟩ key 1 := by
  rintro below hbelow type htype
  obtain rfl : below = 0 := Nat.lt_one_iff.1 hbelow
  cases htype
  rfl

end Ring

/-- The member of the circle is found one link up, if the bound allows that link. A member that is
not there is looked for all the way to the bound. -/
theorem LoadedType.guarded_ring :
    LoadedType.LoadsUp ⟨Ring.tail, Ring.space⟩ ∧ LoadedType.Circular ⟨Ring.tail, Ring.space⟩ ∧
      LoadedType.findInChain ⟨Ring.tail, Ring.space⟩ Ring.key 0 =
        .error (.load (.tooManyHops ⟨"Tail"⟩ 0)) ∧
      LoadedType.findInChain ⟨Ring.tail, Ring.space⟩ Ring.key 1 =
        .ok (some ⟨⟨Ring.head, Ring.space⟩, ⟨Ring.key, .override, some (.transfer "H")⟩, 1⟩) ∧
      Ring.space.resolve ⟨"Tail"⟩ Ring.absent = .error (.load (.tooManyHops ⟨"Tail"⟩ 32)) := by
  refine ⟨Ring.loadsUp, Ring.circular, ?_, ?_, ?_⟩
  · exact ((Ring.loadsUp.guarded Ring.key 0).error_iff _).2 ⟨rfl, nofun, Ring.silentBelow_one⟩
  · exact ((Ring.loadsUp.guarded Ring.key 1).found_iff _).2
      ⟨Nat.le_refl 1, rfl, rfl, Ring.silentBelow_one⟩
  · rw [(Ring.loadsUp.guarded Ring.absent 32).direct_cut Ring.circular Ring.silent Ring.space rfl
      ⟨"Tail"⟩ rfl]
    rfl

/-- With the largest bound the walk for that member is never given up, and nor is the call. -/
theorem LoadedType.endless_ring :
    LoadedType.LoadsUp ⟨Ring.tail, Ring.space⟩ ∧ LoadedType.Circular ⟨Ring.tail, Ring.space⟩ ∧
      LoadedType.findInChain ⟨Ring.tail, Ring.space⟩ Ring.absent LoadError.largestCount =
        .error (.load (.endless ⟨"Tail"⟩)) ∧
      Resolver.resolve { Resolver.ofNamespace Ring.space with maxHops := LoadError.largestCount }
          ⟨⟨"Tail"⟩, Ring.absent, .virtual⟩ = .error (.load (.endless ⟨"Tail"⟩)) := by
  have hwalk : LoadedType.findInChain ⟨Ring.tail, Ring.space⟩ Ring.absent LoadError.largestCount =
      .error (.load (.endless ⟨"Tail"⟩)) := by
    rw [Ring.loadsUp.findInChain_of_circular Ring.circular Ring.silent,
      cut_eq_endless (Nat.le_refl _)]
    rfl
  refine ⟨Ring.loadsUp, Ring.circular, hwalk, ?_⟩
  rw [Resolver.resolve_of_load (show Ring.space.load ⟨"Tail"⟩ = .ok ⟨Ring.tail, Ring.space⟩ from rfl)]
  exact Resolver.InstanceCall.virtual.bind_of_error hwalk

end Linkage
