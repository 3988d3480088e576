import Linkage.Repository.Bundled
import Linkage.Repository.Files
import Linkage.Repository.Payload

/-!
# Payload stores

A store hands out payloads by name: their bytes, and the paths of their files if it keeps them as
files. `Store` is these two lookups. A directory (`Directory.store`) keeps its payloads as files of a
file system, so the two agree: the bytes are what reading at the path gives. A memory store
(`Files.store`) keeps bytes only.
-/

namespace Linkage

/-- A source of payloads by name. -/
structure Store where
  /-- The bytes of a payload. -/
  bytes : String → Except PayloadError ByteArray
  /-- The path of a payload's file. -/
  path : String → Except PayloadError String

/-- Read the file at a path. -/
def Reading.contents (reading : Reading) (path : String) : Except PayloadError ByteArray :=
  (reading path).mapError (.unreadable path)

/-- Read and parse the file at a path. -/
def Reading.declarations (reading : Reading) (path : String) :
    Except PayloadError (List Declaration) := do
  Payload.declarations (← reading.contents path)

/-! ## In memory -/

namespace Files

/-- The host and payload scripts under their names. -/
def bundled : Files String :=
  (empty.put Bundled.hostName Bundled.hostText.toUTF8).put Bundled.payloadName
    Bundled.payloadText.toUTF8

/-- The store of payloads that are kept in memory. It has no paths. -/
def store (files : Files String) : Store where
  bytes name := match files.get? name with
    | some contents => .ok contents
    | none => .error (.missing name)
  path name := .error (.noPath name)

end Files

/-! ## In a directory -/

/-- A directory of a file system. `root` is its path. -/
structure Directory (φ : Type) where
  system : FileSystem φ
  root : String

namespace Directory

variable {φ : Type} (d : Directory φ)

/-- The path that stands for a name. -/
def pathOf (name : String) : String := joinPath d.root name

/-- The path of a name, if it leads to a file. -/
def path (files : φ) (name : String) : Except PayloadError String :=
  if d.system.isFile files (d.pathOf name) then .ok (d.pathOf name) else .error (.missing name)

/-- The bytes of a payload, which are read from its file. -/
def bytes (files : φ) (name : String) : Except PayloadError ByteArray := do
  Reading.contents (d.system.read files) (← d.path files name)

/-- The store that a directory is in a state of the file system. -/
def store (files : φ) : Store := ⟨d.bytes files, d.path files⟩

/-- Write a payload under a name and answer with its path. The directory is made first. -/
def install (files : φ) (name : String) (contents : ByteArray) : Except PayloadError String × φ :=
  match d.system.makeDirectories files d.root with
  | (.error reason, files) => (.error (.unreadable d.root reason), files)
  | (.ok _, files) => match d.system.write files (d.pathOf name) contents with
    | (.error reason, files) => (.error (.unreadable (d.pathOf name) reason), files)
    | (.ok _, files) => (.ok (d.pathOf name), files)

/-- Write both bundled scripts; the first failure ends it. -/
def installBundled (files : φ) : Except PayloadError Unit × φ :=
  match d.install files Bundled.hostName Bundled.hostText.toUTF8 with
  | (.error error, files) => (.error error, files)
  | (.ok _, files) => match d.install files Bundled.payloadName Bundled.payloadText.toUTF8 with
    | (.error error, files) => (.error error, files)
    | (.ok _, files) => (.ok (), files)

end Directory

end Linkage
