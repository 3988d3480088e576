import Linkage.Binding.Walk
import Linkage.Proofs.Except

/-!
# Walks on rows of types

Both walks up a type's parents are compared with lists. `Ascent` relates a type to the row of itself
and everything above it, with all capabilities loaded. On such a row the first walk finds the first
hit (`findInChain_of_ascent`), and the second one gathers the default members of all capabilities,
each unit once and where it appears first (`collectDefaults_of_ascent`).

Whatever the types above are, a walk that succeeds took its answer from where it stands or from
above (`findFrom_eq_some`, `collectFrom_eq_ok`). `Above` relates a type to those above it, and
`place_of_findFrom` and `mem_of_collectFrom` say where on the way the answers lie.
-/

namespace Linkage

namespace LoadedType

/-- The capabilities a type lists, as far as they load. -/
def listed (type : LoadedType) : List LoadedType := type.capabilities.toOption.getD []

/-- A type and the row of itself and all types above it, where every parent and every capability
loads and the last type has no parent. -/
inductive Ascent : LoadedType → List LoadedType → Prop where
  | top {type : LoadedType} {capabilities : List LoadedType}
      (capabilities_load : type.capabilities = .ok capabilities)
      (no_parent : type.parent = .ok none) : Ascent type [type]
  | step {type above : LoadedType} {capabilities chain : List LoadedType}
      (capabilities_load : type.capabilities = .ok capabilities)
      (parent_loads : type.parent = .ok (some above))
      (more : Ascent above chain) : Ascent type (type :: chain)

/-- Whether a type is the parent of another one, or lies further up. -/
inductive Above : LoadedType → LoadedType → Prop where
  | parent {type above : LoadedType} (parent_loads : type.parent = .ok (some above)) :
      Above type above
  | further {type above top : LoadedType} (parent_loads : type.parent = .ok (some above))
      (more : Above above top) : Above type top

/-- The first instance member under a key on a row of types; the first type lies at `depth`. -/
def firstHit? (key : MemberKey) (depth : Nat) (chain : List LoadedType) : Option Hit :=
  (chain.zipIdx depth).findSome? fun place =>
    (place.1.unit.instanceMember? key).map fun member => ⟨place.1, member, place.2⟩

/-- The default members that capabilities declare under a key, in order. -/
def supplied (key : MemberKey) (depth : Nat) (capabilities : List LoadedType) : List Hit :=
  capabilities.filterMap fun capability =>
    (capability.unit.memberOfKind? .default key).map fun member => ⟨capability, member, depth⟩

/-- The default members that the capabilities of a row of types declare under a key, in order and
with repetitions; the first type lies at `depth`. -/
def offers (key : MemberKey) (depth : Nat) (chain : List LoadedType) : List Hit :=
  (chain.zipIdx depth).flatMap fun place => supplied key place.2 place.1.listed

/-- Whether two hits lie on the same unit. -/
def sameOwner (a b : Hit) : Bool := a.owner.SameUnit b.owner

/-- The default members that the capabilities of a row of types declare under a key, the members of
every unit once, where it appears first. -/
def defaultsOn (key : MemberKey) (chain : List LoadedType) : List Hit :=
  (offers key 0 chain).eraseDupsBy sameOwner

variable {start current target : LoadedType} {key : MemberKey} {chain : List LoadedType}
  {limit left depth : Nat}

/-! ## Rows -/

/-- Everything above a type makes a row of its own. -/
theorem Ascent.parent (ascent : target.Ascent chain) :
    (target.parent = .ok none ∧ chain.tail = []) ∨
      ∃ above, target.parent = .ok (some above) ∧ above.Ascent chain.tail := by
  cases ascent with
  | top _ hparent => exact Or.inl ⟨hparent, rfl⟩
  | step _ hparent more => exact Or.inr ⟨_, hparent, more⟩

theorem Ascent.head? (ascent : target.Ascent chain) : chain.head? = some target := by
  cases ascent <;> rfl

/-- A row with a type above its first one leaves a step to take, and the rest of the row the steps
behind it. -/
theorem Ascent.exists_step {above : LoadedType} (more : above.Ascent chain)
    (short : chain.length + 1 ≤ left + 1) : ∃ fewer, left = fewer + 1 ∧ chain.length ≤ fewer + 1 := by
  cases left with
  | zero => cases more <;> simp at short
  | succ fewer => exact ⟨fewer, rfl, Nat.le_of_succ_le_succ short⟩

theorem listed_of_capabilities {type : LoadedType} {capabilities : List LoadedType}
    (h : type.capabilities = .ok capabilities) : type.listed = capabilities := by
  rw [listed, h]
  rfl

theorem firstHit?_nil (key : MemberKey) (depth : Nat) : firstHit? key depth [] = none := rfl

theorem firstHit?_cons_of_some {type : LoadedType} {member : Member}
    (h : type.unit.instanceMember? key = some member) :
    firstHit? key depth (type :: chain) = some ⟨type, member, depth⟩ := by
  rw [firstHit?, List.zipIdx_cons, List.findSome?_cons, h]
  rfl

theorem firstHit?_cons_of_none {type : LoadedType} (h : type.unit.instanceMember? key = none) :
    firstHit? key depth (type :: chain) = firstHit? key (depth + 1) chain := by
  rw [firstHit?, List.zipIdx_cons, List.findSome?_cons, h]
  rfl

/-- The first hit of a row is an instance member of one of its types under the key asked for; at the
depth of the first type it is on that type. -/
theorem firstHit?_eq_some {hit : Hit} (h : firstHit? key depth chain = some hit) :
    hit.owner.unit.instanceMember? key = some hit.member ∧ depth ≤ hit.depth ∧
      (hit.depth = depth → chain.head? = some hit.owner) := by
  induction chain generalizing depth with
  | nil => cases h
  | cons type chain ih =>
    cases hmember : type.unit.instanceMember? key with
    | some member =>
      rw [firstHit?_cons_of_some hmember] at h
      cases h
      exact ⟨hmember, Nat.le_refl _, fun _ => rfl⟩
    | none =>
      rw [firstHit?_cons_of_none hmember] at h
      obtain ⟨hfound, hle, -⟩ := ih h
      refine ⟨hfound, Nat.le_of_succ_le hle, fun hdepth => ?_⟩
      omega

theorem offers_cons {type : LoadedType} {capabilities : List LoadedType}
    (hcaps : type.capabilities = .ok capabilities) :
    offers key depth (type :: chain) =
      supplied key depth capabilities ++ offers key (depth + 1) chain := by
  rw [offers, List.zipIdx_cons, List.flatMap_cons, listed_of_capabilities hcaps]
  rfl

/-! ## Steps of the walks -/

/-- The first walk ends where an instance member is declared. -/
theorem findFrom_of_member {member : Member}
    (h : current.unit.instanceMember? key = some member) :
    findFrom start limit key left depth current = .ok (some ⟨current, member, depth⟩) := by
  rw [findFrom.eq_def]
  simp only [h]

/-- The first walk ends where there is no parent. -/
theorem findFrom_of_no_parent (h : current.unit.instanceMember? key = none)
    (hparent : current.parent = .ok none) :
    findFrom start limit key left depth current = .ok none := by
  rw [findFrom.eq_def]
  simp only [h, hparent]

/-- Otherwise the first walk goes on above, as long as there are steps left. -/
theorem findFrom_succ {above : LoadedType} (h : current.unit.instanceMember? key = none)
    (hparent : current.parent = .ok (some above)) :
    findFrom start limit key (left + 1) depth current =
      findFrom start limit key left (depth + 1) above := by
  rw [findFrom.eq_def]
  simp only [h, hparent]

/-- A walk that finds a member has it from where it stands, or goes on above and finds it there. -/
theorem findFrom_eq_some {hit : Hit}
    (h : findFrom start limit key left depth current = .ok (some hit)) :
    current.unit.instanceMember? key = some hit.member ∧ hit.owner = current ∨
      ∃ above fewer, current.parent = .ok (some above) ∧ left = fewer + 1 ∧
        findFrom start limit key fewer (depth + 1) above = .ok (some hit) := by
  rw [findFrom.eq_def] at h
  dsimp only at h
  split at h
  · next member hmember =>
    cases h
    exact Or.inl ⟨hmember, rfl⟩
  · split at h
    · cases h
    · cases h
    · next above hparent =>
      split at h
      · cases h
      · next fewer => exact Or.inr ⟨above, fewer, hparent, rfl, h⟩

/-- A walk that finds nothing has found nothing where it stands, and it ends there or goes on
above. -/
theorem findFrom_eq_none (h : findFrom start limit key left depth current = .ok none) :
    current.unit.instanceMember? key = none ∧
      (current.parent = .ok none ∨
        ∃ above fewer, current.parent = .ok (some above) ∧ left = fewer + 1 ∧
          findFrom start limit key fewer (depth + 1) above = .ok none) := by
  rw [findFrom.eq_def] at h
  dsimp only at h
  split at h
  · cases h
  · next hmember =>
    refine ⟨hmember, ?_⟩
    split at h
    · cases h
    · next hparent => exact Or.inl hparent
    · next above hparent =>
      split at h
      · cases h
      · next fewer => exact Or.inr ⟨above, fewer, hparent, rfl, h⟩

/-- The second walk takes the capabilities of a type along and ends where there is no parent. -/
theorem collectFrom_of_no_parent {found : List Hit} {capabilities : List LoadedType}
    (hcaps : current.capabilities = .ok capabilities) (hparent : current.parent = .ok none) :
    collectFrom start limit key left depth found current =
      .ok (addDefaults key depth found capabilities) := by
  rw [collectFrom.eq_def]
  simp only [hcaps, hparent]

/-- Otherwise the second walk goes on above, as long as there are steps left. -/
theorem collectFrom_succ {found : List Hit} {above : LoadedType} {capabilities : List LoadedType}
    (hcaps : current.capabilities = .ok capabilities)
    (hparent : current.parent = .ok (some above)) :
    collectFrom start limit key (left + 1) depth found current =
      collectFrom start limit key left (depth + 1) (addDefaults key depth found capabilities)
        above := by
  rw [collectFrom.eq_def]
  simp only [hcaps, hparent]

/-- A walk that collects members has added those of the capabilities where it stands; it ends
there or goes on above. -/
theorem collectFrom_eq_ok {found hits : List Hit}
    (h : collectFrom start limit key left depth found current = .ok hits) :
    ∃ capabilities, current.capabilities = .ok capabilities ∧
      (hits = addDefaults key depth found capabilities ∨
        ∃ above fewer, current.parent = .ok (some above) ∧ left = fewer + 1 ∧
          collectFrom start limit key fewer (depth + 1)
            (addDefaults key depth found capabilities) above = .ok hits) := by
  rw [collectFrom.eq_def] at h
  dsimp only at h
  split at h
  · cases h
  · next capabilities hcaps =>
    refine ⟨capabilities, hcaps, ?_⟩
    split at h
    · cases h
    · cases h
      exact Or.inl rfl
    · next above hparent =>
      split at h
      · cases h
      · next fewer => exact Or.inr ⟨above, fewer, hparent, rfl, h⟩

/-! ## Collected defaults -/

/-- Add a hit to a list of hits unless its type is there already. -/
def addDefault (found : List Hit) (hit : Hit) : List Hit :=
  if found.any fun other => sameOwner other hit then found else found ++ [hit]

theorem addDefaults_eq_foldl (key : MemberKey) (depth : Nat) (found : List Hit)
    (capabilities : List LoadedType) :
    addDefaults key depth found capabilities =
      (supplied key depth capabilities).foldl addDefault found := by
  rw [addDefaults, supplied, List.foldl_filterMap]
  congr 1
  funext found capability
  cases capability.unit.memberOfKind? .default key with
  | none => rfl
  | some member => rfl

theorem sameOwner_comm (a b : Hit) : sameOwner a b = sameOwner b a := by
  simp only [sameOwner, sameUnit_comm]

/-- Adding hits one by one keeps, of those whose type is not there yet, the first ones of each
type. -/
theorem foldl_addDefault (found hits : List Hit) :
    hits.foldl addDefault found =
      found ++ (hits.filter fun hit => !found.any fun other => sameOwner other hit).eraseDupsBy
        sameOwner := by
  induction hits generalizing found with
  | nil => simp
  | cons hit hits ih =>
    rw [List.foldl_cons, ih, addDefault]
    by_cases hthere : (found.any fun other => sameOwner other hit) = true
    · rw [if_pos hthere, List.filter_cons_of_neg (by simpa using hthere)]
    · rw [if_neg hthere, List.filter_cons_of_pos (by simpa using hthere), List.eraseDupsBy_cons,
        List.filter_filter, List.append_assoc, List.singleton_append]
      -- a later hit is kept when it is on none of the types found before and not on this one
      have hkept : ∀ other, (!(found ++ [hit]).any fun o => sameOwner o other) =
          (decide (sameOwner other hit = false) && !found.any fun o => sameOwner o other) := by
        intro other
        rw [List.any_append, sameOwner_comm other hit, List.any_cons, List.any_nil]
        cases sameOwner hit other <;> simp
      simp only [hkept]

theorem foldl_addDefault_nil (hits : List Hit) :
    hits.foldl addDefault [] = hits.eraseDupsBy sameOwner := by
  have hall : (hits.filter fun hit => !([] : List Hit).any fun other => sameOwner other hit) = hits :=
    List.filter_eq_self.2 fun _ _ => rfl
  rw [foldl_addDefault, hall, List.nil_append]

theorem mem_foldl_addDefault {found hits : List Hit} {hit : Hit}
    (h : hit ∈ hits.foldl addDefault found) : hit ∈ found ∨ hit ∈ hits := by
  induction hits generalizing found with
  | nil => exact Or.inl h
  | cons first hits ih =>
    rw [List.foldl_cons, addDefault] at h
    rcases ih h with hfound | hhits
    · split at hfound
      · exact Or.inl hfound
      · rcases List.mem_append.1 hfound with hfound | hfirst
        · exact Or.inl hfound
        · exact Or.inr (List.mem_singleton.1 hfirst ▸ List.mem_cons_self)
    · exact Or.inr (List.mem_cons_of_mem _ hhits)

/-- A default that capabilities supply is a default member of one of them. -/
theorem mem_supplied {capabilities : List LoadedType} {hit : Hit}
    (h : hit ∈ supplied key depth capabilities) :
    hit.owner ∈ capabilities ∧ hit.owner.unit.memberOfKind? .default key = some hit.member := by
  obtain ⟨capability, hmem, hoffer⟩ := List.mem_filterMap.1 h
  obtain ⟨member, hdefault, rfl⟩ := Option.map_eq_some_iff.1 hoffer
  exact ⟨hmem, hdefault⟩

/-- A collected default is a default member under the key asked for, and it has a body. -/
theorem default_of_mem_defaultsOn {hit : Hit} (h : hit ∈ defaultsOn key chain) :
    hit.owner.unit.memberOfKind? .default key = some hit.member ∧
      ∃ body, hit.member.body = some body := by
  have hoffers : hit ∈ offers key 0 chain := by
    rw [defaultsOn, ← foldl_addDefault_nil] at h
    exact (mem_foldl_addDefault h).resolve_left List.not_mem_nil
  obtain ⟨place, -, hsupplied⟩ := List.mem_flatMap.1 hoffers
  obtain ⟨-, hdefault⟩ := mem_supplied hsupplied
  exact ⟨hdefault, CodeUnit.exists_body_of_memberOfKind? hdefault (by decide)⟩

/-! ## Places of hits -/

/-- A hit of the first walk is an instance member under the key. It is on the type where the walk
stands, or on one above it, and then the walk found nothing where it stands. -/
theorem place_of_findFrom {hit : Hit}
    (h : findFrom start limit key left depth current = .ok (some hit)) :
    hit.owner.unit.instanceMember? key = some hit.member ∧
      (hit.owner = current ∧ hit.depth = depth ∨
        current.Above hit.owner ∧ depth < hit.depth ∧ current.unit.instanceMember? key = none) := by
  induction left using Nat.strongRecOn generalizing depth current with
  | ind left ih =>
    cases hmember : current.unit.instanceMember? key with
    | some member =>
      rw [findFrom_of_member hmember] at h
      cases h
      exact ⟨hmember, Or.inl ⟨rfl, rfl⟩⟩
    | none =>
      rcases findFrom_eq_some h with ⟨hfound, -⟩ | ⟨above, fewer, hparent, rfl, hmore⟩
      · rw [hmember] at hfound
        cases hfound
      · obtain ⟨hfound, hplace⟩ := ih fewer (Nat.lt_succ_self fewer) hmore
        refine ⟨hfound, Or.inr ?_⟩
        rcases hplace with ⟨rfl, hdepth⟩ | ⟨habove, hdepth, -⟩
        · exact ⟨.parent hparent, by omega, rfl⟩
        · exact ⟨.further hparent habove, by omega, rfl⟩

/-- What the second walk collects was found before, or is supplied by a capability of the type where
the walk stands or of one above it. -/
theorem mem_of_collectFrom {found hits : List Hit} {hit : Hit}
    (h : collectFrom start limit key left depth found current = .ok hits) (hmem : hit ∈ hits) :
    hit ∈ found ∨ ∃ type capabilities place, (type = current ∨ current.Above type) ∧
      type.capabilities = .ok capabilities ∧ hit ∈ supplied key place capabilities := by
  -- what was found so far grows on the way up, so it is split anew at every type
  induction left using Nat.strongRecOn generalizing depth found current with
  | ind left ih =>
    obtain ⟨capabilities, hcaps, hend⟩ := collectFrom_eq_ok h
    have hadded : hit ∈ addDefaults key depth found capabilities →
        hit ∈ found ∨ ∃ type capabilities place, (type = current ∨ current.Above type) ∧
          type.capabilities = .ok capabilities ∧ hit ∈ supplied key place capabilities := by
      intro hadd
      rw [addDefaults_eq_foldl] at hadd
      rcases mem_foldl_addDefault hadd with hfound | hsupplied
      · exact Or.inl hfound
      · exact Or.inr ⟨current, capabilities, depth, Or.inl rfl, hcaps, hsupplied⟩
    rcases hend with rfl | ⟨above, fewer, hparent, rfl, hmore⟩
    · exact hadded hmem
    · rcases ih fewer (Nat.lt_succ_self fewer) hmore with hbefore | ⟨type, listed, place, htype, hmore⟩
      · exact hadded hbefore
      · refine Or.inr ⟨type, listed, place, Or.inr ?_, hmore⟩
        rcases htype with rfl | habove
        · exact .parent hparent
        · exact .further hparent habove

/-! ## Walks on rows -/

/-- A row that is no longer than the walk may be shows the walk its first hit. -/
theorem findFrom_of_ascent (ascent : current.Ascent chain) (short : chain.length ≤ left + 1) :
    findFrom start limit key left depth current = .ok (firstHit? key depth chain) := by
  induction ascent generalizing left depth with
  | @top type _ _ hparent =>
    cases hmember : type.unit.instanceMember? key with
    | some member => rw [findFrom_of_member hmember, firstHit?_cons_of_some hmember]
    | none => rw [findFrom_of_no_parent hmember hparent, firstHit?_cons_of_none hmember, firstHit?_nil]
  | @step type above _ chain _ hparent more ih =>
    cases hmember : type.unit.instanceMember? key with
    | some member => rw [findFrom_of_member hmember, firstHit?_cons_of_some hmember]
    | none =>
      obtain ⟨fewer, rfl, hfewer⟩ := more.exists_step short
      rw [findFrom_succ hmember hparent, firstHit?_cons_of_none hmember]
      exact ih hfewer

theorem findInChain_of_ascent {maxHops : Nat} (ascent : target.Ascent chain)
    (short : chain.length ≤ maxHops + 1) :
    target.findInChain key maxHops = .ok (firstHit? key 0 chain) :=
  findFrom_of_ascent ascent short

/-- A row that is no longer than the walk may be gives the walk all its offers. -/
theorem collectFrom_of_ascent {found : List Hit} (ascent : current.Ascent chain)
    (short : chain.length ≤ left + 1) :
    collectFrom start limit key left depth found current =
      .ok ((offers key depth chain).foldl addDefault found) := by
  -- what was found so far is arbitrary, so that each type can hand on what it added
  induction ascent generalizing left depth found with
  | @top type capabilities hcaps hparent =>
    rw [collectFrom_of_no_parent hcaps hparent, offers_cons hcaps, addDefaults_eq_foldl]
    simp [offers]
  | @step type above capabilities chain hcaps hparent more ih =>
    obtain ⟨fewer, rfl, hfewer⟩ := more.exists_step short
    rw [collectFrom_succ hcaps hparent, ih hfewer, offers_cons hcaps, addDefaults_eq_foldl,
      List.foldl_append]

theorem collectDefaults_of_ascent {maxHops : Nat} (ascent : target.Ascent chain)
    (short : chain.length ≤ maxHops + 1) :
    target.collectDefaults key maxHops = .ok (defaultsOn key chain) := by
  rw [collectDefaults, collectFrom_of_ascent ascent short, foldl_addDefault_nil, defaultsOn]

end LoadedType

end Linkage
