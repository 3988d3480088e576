import Linkage.Proofs.Except
import Linkage.Repository.Store

/-!
# Places of files

Different paths may lead to one file, and what a path leads through bears on how it is read.
`Places` names what of a file system's state decides where paths lead, and what is held there.
`FileSystem.Keeps` is what one may rely on: writing changes what one place holds and nothing else
(`held_write`, `layout_write`), and reading a path depends on the places that the path meets
(`read_eq`, `read_congr`).

Two states that differ in what one place holds (`Places.AgreeBut`) are therefore read alike at every
path that does not meet it, and go on to differ in that place alone, whatever is written to both.

A disk keeps its contents at places, which are the ways of its files (`Disk.keeps`). Paths that count
as one lead there to or through one place (`Disk.way?_congr`).
-/

namespace Linkage

/-- Where the paths of a file system lead, and what is held there. -/
structure Places (φ κ : Type) where
  /-- What decides where paths lead: the directories, and the links and permits if there are any. -/
  Layout : Type
  layout : φ → Layout
  /-- The contents at a place. -/
  held? : φ → κ → Option ByteArray
  /-- The place that is read at a path. -/
  source? : Layout → String → Option κ
  /-- The place that is written at a path. -/
  target? : Layout → String → Option κ
  /-- Whether a path leads to a place, or could go on there. -/
  Meets : Layout → String → κ → Prop

/-- Whether a file system keeps contents at places. -/
structure FileSystem.Keeps {φ κ : Type} [DecidableEq κ] (system : FileSystem φ)
    (places : Places φ κ) : Prop where
  /-- Reading a path gives what is held at its place. This leaves the reason of a failure open. -/
  read_eq : ∀ files path, (system.read files path).toOption =
    (places.source? (places.layout files) path).bind (places.held? files)
  /-- Nothing but the layout and the places that a path meets bears on how it is read. -/
  read_congr : ∀ files files' path, places.layout files' = places.layout files →
    (∀ place, places.Meets (places.layout files) path place →
      places.held? files' place = places.held? files place) →
    system.read files' path = system.read files path
  /-- Writing leaves the layout alone. -/
  layout_write : ∀ files written contents,
    places.layout (system.write files written contents).2 = places.layout files
  /-- Writing changes what is held at the place of the path, and nowhere else. -/
  held_write : ∀ files written contents place,
    places.held? (system.write files written contents).2 place =
      if places.target? (places.layout files) written = some place then some contents
      else places.held? files place

/-! ## States that differ in one place -/

namespace Places

/-- Whether two states have one layout, and differ in what is held at one place at most. -/
structure AgreeBut {φ κ : Type} (places : Places φ κ) (place? : Option κ) (files files' : φ) :
    Prop where
  layout_eq : places.layout files' = places.layout files
  held_eq : ∀ place, place? ≠ some place → places.held? files' place = places.held? files place

/-- Whether a path leads elsewhere than to the file that is written at another path. -/
def Apart {φ κ : Type} (places : Places φ κ) (files : φ) (path written : String) : Prop :=
  ∀ place, places.source? (places.layout files) path = some place →
    places.target? (places.layout files) written ≠ some place

/-- Whether a path does not lead through that file either. -/
def Clear {φ κ : Type} (places : Places φ κ) (files : φ) (path written : String) : Prop :=
  ∀ place, places.Meets (places.layout files) path place →
    places.target? (places.layout files) written ≠ some place

end Places

namespace FileSystem

variable {φ κ : Type} [DecidableEq κ] {system : FileSystem φ} {places : Places φ κ}
  {place? : Option κ} {files files' : φ} {path written : String}

/-- A write leaves a state that differs from the one before in the place written. -/
theorem Keeps.agreeBut_write (keeps : system.Keeps places) (files : φ) (written : String)
    (contents : ByteArray) :
    places.AgreeBut (places.target? (places.layout files) written) files
      (system.write files written contents).2 := by
  refine ⟨keeps.layout_write files written contents, fun place hplace => ?_⟩
  rw [keeps.held_write, if_neg hplace]

/-- The same write to both states makes no other difference. -/
theorem Keeps.write_agreeBut (keeps : system.Keeps places)
    (agree : places.AgreeBut place? files files') (written : String) (contents : ByteArray) :
    places.AgreeBut place? (system.write files written contents).2
      (system.write files' written contents).2 := by
  refine ⟨?_, fun place hplace => ?_⟩
  · rw [keeps.layout_write, keeps.layout_write, agree.layout_eq]
  · rw [keeps.held_write, keeps.held_write, agree.layout_eq, agree.held_eq place hplace]

/-- Where the path does not lead to the one place, the same contents are read. -/
theorem Keeps.toOption_read_eq (keeps : system.Keeps places)
    (agree : places.AgreeBut place? files files')
    (hplace : ∀ place, places.source? (places.layout files) path = some place →
      place? ≠ some place) :
    (system.read files' path).toOption = (system.read files path).toOption := by
  rw [keeps.read_eq, keeps.read_eq, agree.layout_eq]
  exact Option.bind_congr fun place hsource => agree.held_eq place (hplace place hsource)

/-- Where the path does not meet the one place, reading comes to the same. -/
theorem Keeps.read_agreeBut (keeps : system.Keeps places)
    (agree : places.AgreeBut place? files files')
    (hplace : ∀ place, places.Meets (places.layout files) path place → place? ≠ some place) :
    system.read files' path = system.read files path :=
  keeps.read_congr files files' path agree.layout_eq fun place hmeets =>
    agree.held_eq place (hplace place hmeets)

end FileSystem

/-! ## The places of a disk -/

/-- The way to the name that a path leads to or through, unless it leads to a directory. -/
def Landing.way? : Landing → Option (List String)
  | .directory _ => none
  | .entry way name | .slashed way name | .below way name => some (way ++ [name])

namespace Disk

variable {disk disk' : Disk}

/-- A disk without its files. -/
def bare (disk : Disk) : Disk := { disk with files := .empty }

/-- The places of a disk are the ways of its files. -/
def places : Places Disk (List String) where
  Layout := Disk
  layout := bare
  held? disk way := disk.files.get? way
  source? disk path := (disk.target path).toOption
  target? disk path := (disk.target path).toOption
  Meets disk path way := ∃ landing, disk.landing path = .ok landing ∧ landing.way? = some way

/-- Where pieces of a path lead does not depend on files. -/
theorem follow_bare (disk : Disk) (way pieces : List String) :
    disk.bare.follow way pieces = disk.follow way pieces := by
  induction pieces generalizing way with
  | nil => rfl
  | cons piece rest ih =>
    rw [follow, follow, ih, ih, ih]
    rfl

theorem landing_bare (disk : Disk) (path : String) :
    disk.bare.landing path = disk.landing path := by
  rw [landing, landing, follow_bare]
  rfl

/-- Which file can be written at a path does not depend on files, but why none can be may. -/
theorem toOption_target_bare (disk : Disk) (path : String) :
    (disk.bare.target path).toOption = (disk.target path).toOption := by
  rw [target, target, landing_bare]
  cases disk.landing path with
  | error fault => rfl
  | ok landing => cases landing <;> rfl

theorem landing_congr (h : disk'.bare = disk.bare) (path : String) :
    disk'.landing path = disk.landing path := by
  rw [← landing_bare, h, landing_bare]

/-- What is read at a path depends on the file that the path leads to or through. -/
theorem read_congr {path : String} (h : disk'.bare = disk.bare)
    (hheld : ∀ landing way, disk.landing path = .ok landing → landing.way? = some way →
      disk'.files.get? way = disk.files.get? way) : disk'.read path = disk.read path := by
  -- wherever the path leads, at most one name is looked up
  have hlookUp : ∀ landing way name, disk.landing path = .ok landing →
      landing.way? = some (way ++ [name]) → disk'.lookUp way name = disk.lookUp way name := by
    intro landing way name hlanding hway
    rw [lookUp, lookUp, hheld landing _ hlanding hway]
  rw [read, read, landing_congr h]
  cases hlanding : disk.landing path with
  | error fault => rfl
  | ok landing =>
    cases landing with
    | directory way => rfl
    | entry way name => exact hlookUp _ way name hlanding rfl
    | slashed way name => simp only [passFault, hlookUp _ way name hlanding rfl]
    | below way name => simp only [passFault, hlookUp _ way name hlanding rfl]

/-- Reading gives what is held under the way that could be written. -/
theorem toOption_read (disk : Disk) (path : String) :
    (disk.read path).toOption = (disk.target path).toOption.bind disk.files.get? := by
  rw [read, target]
  cases disk.landing path with
  | error fault => rfl
  | ok landing =>
    cases landing with
    | entry way name =>
      dsimp only
      rw [lookUp]
      split
      · rfl
      · rw [Except.toOption, Option.bind_some]
        cases disk.files.get? (way ++ [name]) <;> rfl
    | _ => rfl

/-- Writing changes the file that a path leads to. -/
theorem get?_write (disk : Disk) (written : String) (contents : ByteArray) (way : List String) :
    (disk.write written contents).2.files.get? way =
      if (disk.target written).toOption = some way then some contents else disk.files.get? way := by
  rw [write]
  cases disk.target written with
  | error fault => rfl
  | ok target =>
    dsimp only [Except.toOption]
    rw [Files.get?_put]
    simp only [Option.some.injEq]

theorem bare_write (disk : Disk) (written : String) (contents : ByteArray) :
    (disk.write written contents).2.bare = disk.bare := by
  rw [write]
  cases disk.target written <;> rfl

/-- A disk keeps contents at places. -/
theorem keeps : system.Keeps places where
  read_eq disk path := by
    show ((disk.read path).mapError FileFault.text).toOption =
      (disk.bare.target path).toOption.bind disk.files.get?
    rw [toOption_target_bare, ← toOption_read]
    cases disk.read path <;> rfl
  read_congr disk disk' path hlayout hheld := by
    show (disk'.read path).mapError FileFault.text = (disk.read path).mapError FileFault.text
    rw [read_congr hlayout fun landing way hlanding hway => hheld way ?_]
    exact ⟨landing, (landing_bare disk path).trans hlanding, hway⟩
  layout_write := bare_write
  held_write disk written contents way := by
    show (disk.write written contents).2.files.get? way =
      if (disk.bare.target written).toOption = some way then _ else _
    rw [get?_write, toOption_target_bare]
    rfl

/-! ## One place for all spellings -/

/-- No piece of a path has a slash in it. -/
theorem notMem_of_mem_cutAt {separator : Char} {text piece : List Char}
    (h : piece ∈ cutAt separator text) : separator ∉ piece := by
  induction text generalizing piece with
  | nil =>
    rw [List.mem_singleton.1 h]
    exact List.not_mem_nil
  | cons c rest ih =>
    rw [cutAt] at h
    split at h
    · rcases List.mem_cons.1 h with rfl | h
      · exact List.not_mem_nil
      · exact ih h
    · next hc =>
      split at h
      · next hcut =>
        rw [List.mem_singleton.1 h, List.mem_singleton]
        exact Ne.symm hc
      · next first more hcut =>
        have hmore : ∀ piece ∈ first :: more, separator ∉ piece := fun piece hpiece =>
          ih (by rw [hcut]; exact hpiece)
        rcases List.mem_cons.1 h with rfl | h
        · rw [List.mem_cons, not_or]
          exact ⟨Ne.symm hc, hmore first List.mem_cons_self⟩
        · exact hmore piece (List.mem_cons_of_mem _ h)

/-- The pieces of a path that lead somewhere. -/
def movingPieces (path : String) : List String :=
  (cutPath path).filter fun piece => !isStill piece

/-- A piece that leads somewhere is neither a dot nor a slash. -/
theorem ne_of_mem_movingPieces {path piece : String} (h : piece ∈ movingPieces path) :
    piece ≠ "." ∧ piece ≠ "/" := by
  obtain ⟨hpiece, hmoving⟩ := List.mem_filter.1 h
  refine ⟨?_, ?_⟩
  · rintro rfl
    cases hmoving
  · rintro rfl
    obtain ⟨characters, hcharacters, hslash⟩ := List.mem_map.1 hpiece
    refine notMem_of_mem_cutAt hcharacters ?_
    rw [← String.toList_ofList (l := characters), hslash]
    decide

/-- What a path is compared by: a mark of where it starts, if any, and the pieces that lead
somewhere. -/
theorem pathPieces_cases (path : String) :
    isAbsolute path = true ∧ pathPieces path = "/" :: movingPieces path ∨
      isAbsolute path = false ∧ (pathPieces path = "." :: movingPieces path ∨
        pathPieces path = movingPieces path) := by
  rw [pathPieces]
  split
  · next habsolute => exact Or.inl ⟨habsolute, rfl⟩
  · next hrelative =>
    refine Or.inr ⟨by simpa using hrelative, ?_⟩
    split
    · exact Or.inl rfl
    · exact Or.inr rfl

/-- Where a path starts can be read off what it is compared by. -/
theorem slash_mem_pathPieces_iff (path : String) :
    "/" ∈ pathPieces path ↔ isAbsolute path = true := by
  have hslash : "/" ∉ movingPieces path := fun hmem => (ne_of_mem_movingPieces hmem).2 rfl
  rcases pathPieces_cases path with ⟨hstart, hpieces⟩ | ⟨hstart, hpieces | hpieces⟩
  · rw [hstart, hpieces]
    simp
  · rw [hstart, hpieces]
    simp [hslash]
  · rw [hstart, hpieces]
    simp [hslash]

/-- And so can the pieces that lead somewhere. -/
theorem filter_pathPieces (path : String) :
    (pathPieces path).filter (fun piece => piece ≠ "." ∧ piece ≠ "/") = movingPieces path := by
  have hkept : (movingPieces path).filter (fun piece => piece ≠ "." ∧ piece ≠ "/") =
      movingPieces path := by
    rw [List.filter_eq_self]
    intro piece hpiece
    exact decide_eq_true (ne_of_mem_movingPieces hpiece)
  rcases pathPieces_cases path with ⟨-, hpieces⟩ | ⟨-, hpieces | hpieces⟩
  · rw [hpieces, List.filter_cons_of_neg (by decide), hkept]
  · rw [hpieces, List.filter_cons_of_neg (by decide), hkept]
  · rw [hpieces, hkept]

/-- Paths that count as one start at one place and have the same pieces that lead somewhere. -/
theorem of_pathPieces_eq {path other : String} (h : pathPieces path = pathPieces other) :
    isAbsolute path = isAbsolute other ∧ movingPieces path = movingPieces other := by
  refine ⟨?_, ?_⟩
  · rw [Bool.eq_iff_iff, ← slash_mem_pathPieces_iff, ← slash_mem_pathPieces_iff, h]
  · rw [← filter_pathPieces path, ← filter_pathPieces other, h]

/-- The first piece that leads somewhere, but not to a directory, is the name that a path leads to or
through. -/
theorem way?_follow_cons (disk : Disk) (way : List String) (piece : String) (rest : List String) :
    (disk.follow way (piece :: rest)).way? =
      if isStill piece then (disk.follow way rest).way?
      else if piece = ".." then (disk.follow way.dropLast rest).way?
      else if disk.isDirectory (way ++ [piece]) then (disk.follow (way ++ [piece]) rest).way?
      else some (way ++ [piece]) := by
  rw [follow]
  repeat' split
  all_goals rfl

/-- Pieces that lead nowhere do not change it. -/
theorem way?_follow (disk : Disk) (way pieces : List String) :
    (disk.follow way pieces).way? =
      (disk.follow way (pieces.filter fun piece => !isStill piece)).way? := by
  induction pieces generalizing way with
  | nil => rfl
  | cons piece rest ih =>
    -- a piece that leads nowhere is passed over on the one side and left out on the other
    rw [way?_follow_cons, ih, ih, ih]
    cases hstill : isStill piece with
    | true => rw [if_pos rfl, List.filter_cons_of_neg (by simp [hstill])]
    | false => rw [List.filter_cons_of_pos (by simp [hstill]), way?_follow_cons, hstill]

/-- Paths that count as one lead to or through one name, if they can be taken at all. -/
theorem way?_congr {path other : String} {landing landing' : Landing}
    (h : pathPieces path = pathPieces other) (hlanding : disk.landing path = .ok landing)
    (hlanding' : disk.landing other = .ok landing') : landing.way? = landing'.way? := by
  obtain ⟨hstart, hmoving⟩ := of_pathPieces_eq h
  have hway : ∀ {path landing}, disk.landing path = .ok landing →
      landing.way? = (disk.follow (disk.start path) (movingPieces path)).way? := by
    intro path landing hlanding
    rw [Disk.landing] at hlanding
    split at hlanding
    · cases hlanding
    · rw [← Except.ok.inj hlanding]
      exact way?_follow disk _ _
  rw [hway hlanding, hway hlanding', hmoving, start, start, hstart]

/-- What can be written at a path is the name that it leads to. -/
theorem exists_landing_of_target {path : String} {way : List String}
    (h : disk.target path = .ok way) :
    ∃ landing, disk.landing path = .ok landing ∧ landing.way? = some way := by
  rw [target] at h
  cases hlanding : disk.landing path with
  | error fault =>
    rw [hlanding] at h
    cases h
  | ok landing =>
    rw [hlanding] at h
    cases landing with
    | entry outer name =>
      dsimp only at h
      split at h
      · cases h
      · cases h
        exact ⟨_, rfl, rfl⟩
    | _ => cases h

/-- A path that does not meet the file written at another path leads elsewhere, and so do all paths
that count as this one. -/
theorem apart_of_clear {path asked written : String} {landing : Landing}
    (hlanding : disk.landing path = .ok landing) (clear : places.Clear disk path written)
    (h : pathPieces asked = pathPieces path) : places.Apart disk asked written := by
  intro way hsource
  have hsource : (disk.bare.target asked).toOption = some way := hsource
  obtain ⟨landing', hlanding', hway⟩ :=
    exists_landing_of_target (Except.toOption_eq_some_iff.1 hsource)
  refine clear way ⟨landing, (landing_bare disk path).trans hlanding, ?_⟩
  rw [landing_bare] at hlanding'
  rw [← way?_congr h hlanding' hlanding, hway]

end Disk

end Linkage
