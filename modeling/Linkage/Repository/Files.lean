/-!
# Files

What is asked of a file system is named by `FileSystem`, which stores take as a parameter: paths are
texts, and how the state of a file system answers them is left to it.

`Disk` is a file system. It has directories and files in one tree, without links and permits, and
follows a path piece by piece as far as it leads (`Disk.follow`).
-/

namespace Linkage

/-! ## Paths -/

/-- The pieces of a text between the places of a separator. -/
def cutAt (separator : Char) : List Char → List (List Char)
  | [] => [[]]
  | c :: rest =>
    if c = separator then [] :: cutAt separator rest
    else match cutAt separator rest with
      | [] => [[c]]
      | piece :: more => (c :: piece) :: more

/-- The pieces of a path between its slashes. -/
def cutPath (path : String) : List String := (cutAt '/' path.toList).map String.ofList

/-- Whether a path starts from the topmost directory. -/
def isAbsolute (path : String) : Bool := path.toList.head? = some '/'

/-- Whether a piece of a path leads nowhere: it is empty or a single dot. -/
def isStill (piece : String) : Bool := piece = "" || piece = "."

/-- What a path is compared by: its pieces without those that lead nowhere. A slash or a dot that it
starts with is kept. -/
def pathPieces (path : String) : List String :=
  let pieces := cutPath path
  let moving := pieces.filter fun piece => !isStill piece
  if isAbsolute path then "/" :: moving
  else if pieces.head? = some "." then "." :: moving
  else moving

/-- The path of a name under a root. An absolute name stands for itself, and no slash is put behind a
root that is empty or ends with one. -/
def joinPath (root name : String) : String :=
  if isAbsolute name then name
  else if root.isEmpty || root.toList.getLast? = some '/' then root ++ name
  else root ++ "/" ++ name

/-! ## What is asked of a file system -/

/-- What reading comes to at each path: the contents of a file, or the reason why there are none. -/
abbrev Reading := String → Except String ByteArray

/-- A file system with states in `φ`. What fails fails with a reason. -/
structure FileSystem (φ : Type) where
  /-- Whether a path leads to a file. -/
  isFile : φ → String → Bool
  /-- What reading comes to. -/
  read : φ → Reading
  /-- Make a directory and those above it, where they are missing. -/
  makeDirectories : φ → String → Except String Unit × φ
  /-- Let a file hold the given contents and nothing else. -/
  write : φ → String → ByteArray → Except String Unit × φ

/-! ## Named contents -/

/-- Contents under keys. -/
structure Files (κ : Type) where
  entries : List (κ × ByteArray)
  /-- No key stands twice. -/
  keys_distinct : (entries.map Prod.fst).Nodup

namespace Files

variable {κ : Type} [DecidableEq κ]

/-- No contents. -/
def empty : Files κ := ⟨[], by simp⟩

/-- The contents under a key. -/
def get? (files : Files κ) (key : κ) : Option ByteArray :=
  (files.entries.find? fun entry => entry.1 = key).map Prod.snd

/-- Files without a key. -/
def remove (files : Files κ) (key : κ) : Files κ where
  entries := files.entries.filter fun entry => entry.1 ≠ key
  keys_distinct := files.keys_distinct.sublist (List.filter_sublist.map _)

/-- A removed key is not among the keys left. -/
theorem notMem_remove (files : Files κ) (key : κ) :
    key ∉ (files.remove key).entries.map Prod.fst := by
  intro h
  obtain ⟨entry, hentry, hkey⟩ := List.mem_map.1 h
  have hkept := (List.mem_filter.1 hentry).2
  simp [hkey] at hkept

/-- Put contents under a key, in place of what was there. -/
def put (files : Files κ) (key : κ) (contents : ByteArray) : Files κ where
  entries := (key, contents) :: (files.remove key).entries
  keys_distinct := List.nodup_cons.2
    ⟨files.notMem_remove key, (files.remove key).keys_distinct⟩

theorem get?_remove (files : Files κ) (key other : κ) :
    (files.remove key).get? other = if key = other then none else files.get? other := by
  simp only [remove, get?]
  rw [List.find?_filter]
  by_cases h : key = other
  · subst h
    simp only [if_true, Option.map_eq_none_iff, List.find?_eq_none]
    intro entry _
    simp
  · simp only [h, if_false]
    congr 2
    funext entry
    by_cases hentry : entry.1 = other
    · simp [hentry, Ne.symm h]
    · simp [hentry]

theorem get?_put (files : Files κ) (key other : κ) (contents : ByteArray) :
    (files.put key contents).get? other =
      if key = other then some contents else files.get? other := by
  by_cases h : key = other
  · simp [put, get?, h]
  · have hkept := files.get?_remove key other
    rw [if_neg h] at hkept ⊢
    rw [← hkept]
    simp [put, get?, h]

end Files

/-! ## A tree of directories and files -/

/-- Why a file operation fails. -/
inductive FileFault where
  | absent | occupied | throughFile | isDirectory | nameTooLong | zeroInName
  deriving DecidableEq, Repr

/-- The wording of the reason, with its number if it has one. -/
def FileFault.text : FileFault → String
  | absent => "No such file or directory (os error 2)"
  | occupied => "File exists (os error 17)"
  | throughFile => "Not a directory (os error 20)"
  | isDirectory => "Is a directory (os error 21)"
  | nameTooLong => "File name too long (os error 36)"
  | zeroInName => "file name contained an unexpected NUL byte"

/-- What reading comes to where there are no files. -/
def Reading.nothing : Reading := fun _ => .error FileFault.absent.text

/-- The longest name of a file, in bytes. -/
def longestName : Nat := 255

/-- The longest path, in bytes. -/
def longestPath : Nat := 4095

/-- Directories and files under their ways, which are the names passed from the topmost directory
on. -/
structure Disk where
  /-- The way to the directory that relative paths start from. -/
  here : List String
  /-- The ways to the directories, without the topmost one. -/
  directories : List (List String)
  files : Files (List String)

/-- Where a path leads. -/
inductive Landing where
  /-- To a directory. -/
  | directory (way : List String)
  /-- To a name in a directory that is not itself a directory's. There may be a file there. -/
  | entry (way : List String) (name : String)
  /-- To such a name with slashes behind it. -/
  | slashed (way : List String) (name : String)
  /-- On through such a name. -/
  | below (way : List String) (name : String)
  deriving DecidableEq, Repr

namespace Disk

variable (disk : Disk)

/-- Whether a way leads to a directory. -/
def isDirectory (way : List String) : Bool := way.isEmpty || disk.directories.contains way

/-- The contents of the file under a name in a directory. -/
def lookUp (way : List String) (name : String) : Except FileFault ByteArray :=
  if longestName < name.utf8ByteSize then .error .nameTooLong
  else match disk.files.get? (way ++ [name]) with
    | some contents => .ok contents
    | none => .error .absent

/-- Why a name that is not a directory's cannot be passed. -/
def passFault (way : List String) (name : String) : FileFault :=
  match disk.lookUp way name with
  | .ok _ => .throughFile
  | .error fault => fault

/-- Follow the pieces of a path from a directory on, as far as there are directories. Above the
topmost one there is only itself. -/
def follow (way : List String) : List String → Landing
  | [] => .directory way
  | piece :: rest =>
    if isStill piece then follow way rest
    else if piece = ".." then follow way.dropLast rest
    else if disk.isDirectory (way ++ [piece]) then follow (way ++ [piece]) rest
    else if rest.isEmpty then .entry way piece
    else if rest.all (· = "") then .slashed way piece
    else .below way piece

/-- Why no operation takes a path. -/
def refusal? (path : String) : Option FileFault :=
  if '\x00' ∈ path.toList then some .zeroInName
  else if longestPath < path.utf8ByteSize then some .nameTooLong
  else if path.isEmpty then some .absent
  else none

/-- The directory that a path starts from. -/
def start (path : String) : List String := if isAbsolute path then [] else disk.here

/-- Where a path leads. -/
def landing (path : String) : Except FileFault Landing :=
  match refusal? path with
  | some fault => .error fault
  | none => .ok (disk.follow (disk.start path) (cutPath path))

/-- Read the file that a path leads to. -/
def read (path : String) : Except FileFault ByteArray :=
  match disk.landing path with
  | .error fault => .error fault
  | .ok (.directory _) => .error .isDirectory
  | .ok (.entry way name) => disk.lookUp way name
  | .ok (.slashed way name) | .ok (.below way name) => .error (disk.passFault way name)

/-- The way to the file that can be written at a path, or why none can be. -/
def target (path : String) : Except FileFault (List String) :=
  match disk.landing path with
  | .error fault => .error fault
  | .ok (.directory _) | .ok (.slashed _ _) => .error .isDirectory
  | .ok (.entry way name) =>
    if longestName < name.utf8ByteSize then .error .nameTooLong else .ok (way ++ [name])
  | .ok (.below way name) => .error (disk.passFault way name)

/-- Write a file. -/
def write (path : String) (contents : ByteArray) : Except FileFault Unit × Disk :=
  match disk.target path with
  | .error fault => (.error fault, disk)
  | .ok way => (.ok (), { disk with files := disk.files.put way contents })

/-- Delete the file that a path leads to; the flag says whether there was one. -/
def delete (path : String) : Bool × Disk :=
  match disk.read path, disk.target path with
  | .ok _, .ok way => (true, { disk with files := disk.files.remove way })
  | _, _ => (false, disk)

/-- Make the directories that the pieces of a path pass, where they are missing. The flag tells
whether one was made before: a file in the way is then found by trying to make a directory there,
and not by trying to pass it. -/
def makeFrom (made : Bool) (way : List String) : List String → Disk → Except FileFault Unit × Disk
  | [], disk => (.ok (), disk)
  | piece :: rest, disk =>
    if isStill piece then makeFrom made way rest disk
    else if piece = ".." then makeFrom made way.dropLast rest disk
    else if disk.isDirectory (way ++ [piece]) then makeFrom made (way ++ [piece]) rest disk
    else match disk.lookUp way piece with
      | .ok _ => (.error (if made || rest.all (· = "") then .occupied else .throughFile), disk)
      | .error .absent =>
        -- from here on every directory is a new one
        makeFrom true (way ++ [piece]) rest
          { disk with directories := (way ++ [piece]) :: disk.directories }
      | .error fault => (.error fault, disk)

/-- Make a directory and those above it, where they are missing. -/
def makeDirectories (path : String) : Except FileFault Unit × Disk :=
  if path.isEmpty then (.ok (), disk)
  else match refusal? path with
    | some fault => (.error fault, disk)
    | none => makeFrom false (disk.start path) (cutPath path) disk

/-- The disk as a file system. -/
def system : FileSystem Disk where
  isFile disk path := (disk.read path).toOption.isSome
  read disk path := (disk.read path).mapError FileFault.text
  makeDirectories disk path :=
    ((disk.makeDirectories path).1.mapError FileFault.text, (disk.makeDirectories path).2)
  write disk path contents :=
    ((disk.write path contents).1.mapError FileFault.text, (disk.write path contents).2)

end Disk

end Linkage
