import Linkage.Namespace.Load
import Linkage.Proofs.SearchOrder

/-!
# References between types

A type refers to its parent and to its capabilities by name, and every such name is loaded through
the type's home. `LoadedType.Reaches` relates a type to everything that is reached from it by
following references. What every load through a home keeps holds of all that is reached
(`Reaches.invariant`); in particular nothing outside the namespaces visible from a type's home is
ever reached from it (`Reaches.within`). An instance can only be held as a type whose unit its own
type reaches (`reaches_of_isAssignable`).
-/

namespace Linkage

namespace LoadedType

/-- Whether a type names another one as its parent or among its capabilities. -/
def RefersTo (type : LoadedType) (name : QualifiedName) : Prop :=
  type.unit.parent = some name ∨ name ∈ type.unit.capabilities

/-- Whether a type is reached from another one by following references, each loaded through the home
of the type that makes it. -/
inductive Reaches (start : LoadedType) : LoadedType → Prop where
  | refl : start.Reaches start
  | step {type found : LoadedType} {name : QualifiedName} (earlier : start.Reaches type)
      (refers : type.RefersTo name) (loads : type.home.load name = .ok found) :
      start.Reaches found

variable {start type above : LoadedType}

/-- The parent of a type is what its home loads under the name that the type gives. -/
theorem exists_load_of_parent (h : type.parent = .ok (some above)) :
    ∃ name, type.unit.parent = some name ∧ type.home.load name = .ok above := by
  rw [LoadedType.parent] at h
  split at h
  · cases h
  · next name hname =>
    obtain ⟨found, hload, hfound⟩ := Except.map_eq_ok_iff.1 h
    exact ⟨name, hname, Option.some.inj hfound ▸ hload⟩

/-- The parent of a type that is reached is reached. -/
theorem Reaches.parent (h : start.Reaches type) (hparent : type.parent = .ok (some above)) :
    start.Reaches above := by
  obtain ⟨name, hname, hload⟩ := exists_load_of_parent hparent
  exact h.step (Or.inl hname) hload

/-- The capabilities of a type that is reached are reached. -/
theorem Reaches.capability {listed : LoadedType} {capabilities : List LoadedType}
    (h : start.Reaches type) (hall : type.capabilities = .ok capabilities)
    (hmem : listed ∈ capabilities) : start.Reaches listed := by
  obtain ⟨name, hname, hload⟩ := Except.exists_of_mem_mapM hall hmem
  exact h.step (Or.inr hname) hload

/-- What holds of a type and is kept by every load through a home holds of all that is reached from
the type. -/
theorem Reaches.invariant {property : LoadedType → Prop} (h : start.Reaches type)
    (base : property start)
    (kept : ∀ type found name, property type → type.home.load name = .ok found → property found) :
    property type := by
  induction h with
  | refl => exact base
  | step _ _ loads ih => exact kept _ _ _ ih loads

/-- What is reached from a type within a namespace is within it. -/
theorem Reaches.within {space : Namespace} (h : start.Reaches type) (inside : start.Within space) :
    type.Within space :=
  h.invariant inside fun _ _ _ (hwithin : LoadedType.Within _ space) hload => hwithin.load hload

/-! ## What an instance can be held as -/

/-- A walk that finds the reference stands at its unit, has it among the capabilities at hand, or
finds it further up. -/
theorem assignableFrom_eq_true {limit left : Nat} {current reference : LoadedType}
    (h : assignableFrom start limit reference left current = .ok true) :
    current.SameUnit reference ∨
      (∃ capabilities, current.capabilities = .ok capabilities ∧
        ∃ capability ∈ capabilities, capability.SameUnit reference) ∨
      ∃ above fewer, current.parent = .ok (some above) ∧ left = fewer + 1 ∧
        assignableFrom start limit reference fewer above = .ok true := by
  rw [assignableFrom.eq_def] at h
  dsimp only at h
  split at h
  · next hsame => exact Or.inl hsame
  · split at h
    · cases h
    · next capabilities hcaps =>
      split at h
      · next hmem => exact Or.inr (Or.inl ⟨capabilities, hcaps, hmem⟩)
      · split at h
        · cases h
        · next fewer =>
          split at h
          · cases h
          · cases h
          · next above hparent => exact Or.inr (Or.inr ⟨above, fewer, hparent, rfl, h⟩)

/-- A walk that starts at a type that is reached finds only units of such types. -/
theorem Reaches.of_assignableFrom {origin current reference : LoadedType} {limit left : Nat}
    (reached : origin.Reaches current)
    (h : assignableFrom start limit reference left current = .ok true) :
    ∃ type, origin.Reaches type ∧ type.SameUnit reference := by
  -- the steps left go down with the way up, as in the walks for members
  induction left generalizing current with
  | zero =>
    rcases assignableFrom_eq_true h with
      hsame | ⟨capabilities, hcaps, capability, hmem, hsame⟩ | ⟨above, fewer, -, hleft, -⟩
    · exact ⟨current, reached, hsame⟩
    · exact ⟨capability, reached.capability hcaps hmem, hsame⟩
    · cases hleft
  | succ left ih =>
    rcases assignableFrom_eq_true h with
      hsame | ⟨capabilities, hcaps, capability, hmem, hsame⟩ | ⟨above, fewer, hparent, hleft, hmore⟩
    · exact ⟨current, reached, hsame⟩
    · exact ⟨capability, reached.capability hcaps hmem, hsame⟩
    · cases hleft
      exact ih (reached.parent hparent) hmore

/-- An instance can only be held as a type whose unit its own type reaches. -/
theorem reaches_of_isAssignable {runtime reference : LoadedType} {maxHops : Nat}
    (h : runtime.isAssignable reference maxHops = .ok true) :
    ∃ type, runtime.Reaches type ∧ type.SameUnit reference :=
  Reaches.refl.of_assignableFrom h

end LoadedType

end Linkage
