import Linkage.Repository.Store

/-!
# The parse cache

A cache keeps the declarations of every path that was parsed with success, and never looks at the
path again: a later version of the file is not seen, while a failure is not kept and may be
repaired. Paths that have the same pieces are one path (`pathPieces`).
-/

namespace Linkage

/-- Declarations by the pieces of a path. -/
structure Cache where
  entries : List (List String × List Declaration)
  /-- No path stands twice. -/
  paths_distinct : (entries.map Prod.fst).Nodup

namespace Cache

/-- The cache that has seen nothing. -/
def empty : Cache := ⟨[], by simp⟩

/-- The number of paths kept. -/
def size (cache : Cache) : Nat := cache.entries.length

/-- The declarations kept for a path. -/
def find? (cache : Cache) (path : String) : Option (List Declaration) :=
  (cache.entries.find? fun entry => entry.1 = pathPieces path).map Prod.snd

/-- Nothing is kept for a path exactly when its pieces stand nowhere in the cache. -/
theorem find?_eq_none_iff {cache : Cache} {path : String} :
    cache.find? path = none ↔ pathPieces path ∉ cache.entries.map Prod.fst := by
  rw [find?, Option.map_eq_none_iff, List.find?_eq_none]
  constructor
  · intro h hmem
    obtain ⟨entry, hentry, hpath⟩ := List.mem_map.1 hmem
    exact h entry hentry (decide_eq_true hpath)
  · intro h entry hentry hpath
    exact h (List.mem_map.2 ⟨entry, hentry, of_decide_eq_true hpath⟩)

/-- Keep declarations for a path that has none yet. -/
def keep (cache : Cache) (path : String) (declarations : List Declaration)
    (new : cache.find? path = none) : Cache where
  entries := (pathPieces path, declarations) :: cache.entries
  paths_distinct := List.nodup_cons.2 ⟨find?_eq_none_iff.1 new, cache.paths_distinct⟩

theorem find?_keep {cache : Cache} {path : String} {declarations : List Declaration}
    (new : cache.find? path = none) (other : String) :
    (cache.keep path declarations new).find? other =
      if pathPieces path = pathPieces other then some declarations else cache.find? other := by
  rw [keep, find?, List.find?_cons]
  by_cases h : pathPieces path = pathPieces other
  · simp only [h, decide_true, if_true, Option.map_some]
  · simp only [h, decide_false, if_false]
    rfl

/-- The declarations of a path. On a miss they are parsed from the file's contents, or its failure
to be read is passed on, and only success is kept. -/
def getOrParse (cache : Cache) (path : String) (contents : Except PayloadError ByteArray) :
    Except PayloadError (List Declaration) × Cache :=
  match found : cache.find? path with
  | some declarations => (.ok declarations, cache)
  | none => match contents >>= Payload.declarations with
    | .ok declarations => (.ok declarations, cache.keep path declarations found)
    | .error error => (.error error, cache)

/-- A lookup answers with what was kept for the path, fails as parsing does, or parses and keeps. -/
theorem getOrParse_cases (cache : Cache) (path : String) (contents : Except PayloadError ByteArray) :
    (∃ declarations, cache.find? path = some declarations ∧
      cache.getOrParse path contents = (.ok declarations, cache)) ∨
    (∃ error, cache.find? path = none ∧ (contents >>= Payload.declarations) = .error error ∧
      cache.getOrParse path contents = (.error error, cache)) ∨
    ∃ declarations new, (contents >>= Payload.declarations) = .ok declarations ∧
      cache.getOrParse path contents = (.ok declarations, cache.keep path declarations new) := by
  unfold getOrParse
  split
  · next declarations hfound => exact Or.inl ⟨declarations, hfound, rfl⟩
  · next new =>
    split
    · next declarations hparsed => exact Or.inr (Or.inr ⟨declarations, new, hparsed, rfl⟩)
    · next error herror => exact Or.inr (Or.inl ⟨error, new, herror, rfl⟩)

end Cache

end Linkage
