import Linkage.Script.Document
import Linkage.Script.Reading
import Linkage.Text.Basic

/-!
# The grammar of scripts

One rule per construct. Gaps are allowed between the parts of every rule except inside identifiers,
dotted paths and quoted texts. Words have no boundary, so `classA` begins with the word `class`,
and a choice that has succeeded is never taken back.

`Script.read` reads a whole text. A refused text is reported at the place where the furthest failed
rule began.
-/

namespace Linkage.Script

/-- The characters an identifier may begin with. -/
def isIdentStart (c : Char) : Bool := c.isAlpha || c = '_' || c = '$'

/-- The characters an identifier may go on with. -/
def isIdentRest (c : Char) : Bool := c.isAlphanum || c = '_' || c = '$'

/-- Split an identifier off a text. -/
def scanIdent : List Char → Option (List Char × List Char)
  | [] => none
  | c :: rest =>
    if isIdentStart c then some (c :: rest.takeWhile isIdentRest, rest.dropWhile isIdentRest)
    else none

/-- An identifier and the text behind it make up the whole text. -/
theorem scanIdent_append {text name rest : List Char} (h : scanIdent text = some (name, rest)) :
    name ++ rest = text := by
  unfold scanIdent at h
  split at h
  · cases h
  · split at h
    · cases h; simp
    · cases h

/-- An identifier is not empty. -/
theorem scanIdent_ne_nil {text name rest : List Char} (h : scanIdent text = some (name, rest)) :
    name ≠ [] := by
  unfold scanIdent at h
  split at h
  · cases h
  · split at h
    · cases h; simp
    · cases h

/-- Split a dotted path off a text. A dot belongs to the path only if an identifier follows. -/
def scanPath (text : List Char) : Option (List Char × List Char) :=
  match _h : scanIdent text with
  | none => none
  | some (name, '.' :: rest) =>
    match scanPath rest with
    | some (more, behind) => some (name ++ '.' :: more, behind)
    | none => some (name, '.' :: rest)
  | some (name, rest) => some (name, rest)
termination_by text.length
decreasing_by
  have := congrArg List.length (scanIdent_append _h)
  simp at this
  omega

/-- Split a quoted text off a text; there are no escapes. -/
def scanQuoted : List Char → Option (List Char × List Char)
  | '"' :: rest =>
    match rest.dropWhile (· != '"') with
    | [] => none
    | _ :: behind => some (rest.takeWhile (· != '"'), behind)
  | _ => none

namespace Rule

/-- An identifier. -/
def ident : Rule String := named (ofScan scanIdent) >>= fun name => value (String.ofList name)

/-- A dotted path. -/
def path : Rule String := named (ofScan scanPath) >>= fun name => value (String.ofList name)

/-- A text between double quotes. -/
def quoted : Rule String := named (ofScan scanQuoted) >>= fun text => value (String.ofList text)

/-- The first of several fixed words, with what it stands for. -/
def choice {α : Type} (words : List (String × α)) : Rule α :=
  words.foldr (fun entry others => orElse (word entry.1 >>= fun _ => value entry.2) others)
    (ofScan fun _ => none)

/-- The word a member begins with. -/
def memberWord : Rule ScriptWord := named <| choice <|
  ScriptWord.all.map fun word => (word.spelling, word)

/-- A parameter type other than the string group. -/
def scalarParam : Rule ScriptParam := named <| choice <|
  [ParamType.boolean, .byte, .short, .char, .int, .long, .float, .double, .string].map
    fun type => (type.word, .known type)

/-- The string group. Blanks between its halves do not count; a comment there spoils the
spelling. -/
def groupParam : Rule ScriptParam := named do
  word "String"
  let between ← gap
  word "..."
  let spelling := between.filter fun c => !Text.isBlank c
  return if spelling.isEmpty then .known .stringGroup
    else .unknown (String.ofList ("String".toList ++ spelling ++ "...".toList))

/-- A parameter. -/
def param : Rule ScriptParam := named (orElse groupParam scalarParam)

/-- Parameters with commas between them. -/
def paramList : Rule (List ScriptParam) := named (commaSeparated param)

/-- The word a body begins with, and the body it makes of a text. -/
def bodyWord : Rule (String → Body) := named <| choice
  [("transfer", .transfer), ("raise", .raise), ("tamper", .tamper)]

/-- An equals sign, the kind of the body and its text. -/
def bodyClause : Rule Body := named do
  word "="
  let _ ← gap
  let make ← bodyWord
  let _ ← gap
  return make (← quoted)

/-- A member declaration. -/
def member : Rule ScriptMember := named do
  let first ← memberWord
  let _ ← gap
  let name ← ident
  let _ ← gap
  word "("
  let _ ← gap
  let params ← optional paramList
  let _ ← gap
  word ")"
  let _ ← gap
  let body ← optional bodyClause
  let _ ← gap
  word ";"
  return ⟨first, name, params.getD [], body⟩

/-- Members between braces. -/
def memberBlock : Rule (List ScriptMember) := do
  word "\x7b"
  let _ ← gap
  let members ← many member
  let _ ← gap
  word "\x7d"
  return members

/-- The word `abstract` in front of a class. -/
def abstractWord : Rule Unit := named (word "abstract")

/-- The parent of a class. -/
def extendsClause : Rule String := named do
  word "extends"
  let _ ← gap
  path

/-- The capabilities of a class. -/
def implementsClause : Rule (List String) := named do
  word "implements"
  let _ ← gap
  commaSeparated path

/-- A class declaration. -/
def classUnit : Rule ScriptUnit := named do
  let abstract ← optional abstractWord
  let _ ← gap
  word "class"
  let _ ← gap
  let name ← path
  let _ ← gap
  let parent ← optional extendsClause
  let _ ← gap
  let capabilities ← optional implementsClause
  let _ ← gap
  let members ← memberBlock
  return .classUnit abstract.isSome name parent (capabilities.getD []) members

/-- An interface declaration. -/
def interfaceUnit : Rule ScriptUnit := named do
  word "interface"
  let _ ← gap
  let name ← path
  let _ ← gap
  let members ← memberBlock
  return .interfaceUnit name members

/-- A class or interface declaration. -/
def unit : Rule ScriptUnit := named (orElse classUnit interfaceUnit)

/-- The package all undotted names of a script belong to. -/
def packageClause : Rule String := named do
  word "package"
  let _ ← gap
  let name ← path
  let _ ← gap
  word ";"
  return name

/-- A whole script. -/
def script : Rule Script := named do
  let _ ← gap
  let package ← optional packageClause
  let _ ← gap
  let units ← many unit
  let _ ← gap
  finish
  return ⟨package, units⟩

end Rule

/-- The line and column behind a piece of text, both counted from one. -/
def position (before : List Char) : Nat × Nat :=
  (before.count '\n' + 1, (before.reverse.takeWhile (· != '\n')).length + 1)

/-- Read a whole text. -/
def read (text : List Char) : Except ScriptError Script :=
  let reading := Rule.script text
  match reading.outcome with
  | some (script, _) => .ok script
  | none =>
    let place := position (text.take (text.length - reading.mark.getD text.length))
    .error (.rejected place.1 place.2)

/-- The declarations a text holds. -/
def parse (text : String) : Except ScriptError (List Declaration) := do
  let script ← read text.toList
  script.declarations

end Linkage.Script
