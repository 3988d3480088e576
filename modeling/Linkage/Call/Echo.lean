import Linkage.Call.Value
import Linkage.Text.Basic

/-!
# Echoes

An echo is the text by which a body answers: the owner, a colon, the strings of every group each
after a space, and the texts of the other values in parentheses with spaces between them, as in
`A: some strings(true 42)`. A value that is empty, or that holds a blank, a parenthesis, a double
quote or a backslash, is written between double quotes, with a backslash before each double quote
and backslash in it.

`Echo.parse` takes an echo apart. It stops a bare value at spaces and parentheses only, so it reads
more texts than `Echo.render` writes.
-/

namespace Linkage

/-- The parts of an echo. -/
structure Echo where
  owner : String
  /-- The strings of the groups. -/
  group : List String
  /-- The texts of the other values. -/
  fixed : List String
  deriving DecidableEq, Repr, Inhabited

namespace Echo

/-- Whether a character makes a value be quoted. -/
def isDelicate (c : Char) : Bool := Text.isBlank c || c = '(' || c = ')' || c = '"' || c = '\\'

/-- A character between double quotes. -/
def escape (c : Char) : List Char := if c = '"' || c = '\\' then ['\\', c] else [c]

/-- A value as it stands in an echo. -/
def quote (text : List Char) : List Char :=
  if text.isEmpty || text.any isDelicate then '"' :: text.flatMap escape ++ ['"'] else text

/-- A text as it stands in an echo. -/
def quoted (text : String) : String := String.ofList (quote text.toList)

/-- The strings a value adds to the group. -/
def groupOf : Value → List String
  | .group strings => strings
  | _ => []

/-- The text a value adds to the fixed part. -/
def fixedOf : Value → List String
  | .group _ => []
  | value => [value.text]

/-- The echo of a list of values. -/
def ofValues (owner : String) (values : List Value) : Echo :=
  ⟨owner, values.flatMap groupOf, values.flatMap fixedOf⟩

/-- The characters of an echo. -/
def chars (echo : Echo) : List Char :=
  echo.owner.toList ++ ':' :: echo.group.flatMap (fun s => ' ' :: quote s.toList) ++
    '(' :: List.intercalate [' '] (echo.fixed.map fun s => quote s.toList) ++ [')']

/-- The text of an echo. -/
def render (echo : Echo) : String := String.ofList echo.chars

/-- Whether a bare value ends before a character. -/
def endsBare (c : Char) : Bool := c = ' ' || c = '(' || c = ')'

/-- Read the rest of a quoted value, up to the closing quote. -/
def readQuoted : List Char → Option (List Char × List Char)
  | [] => none
  | '"' :: rest => some ([], rest)
  | '\\' :: c :: rest => (readQuoted rest).map fun found => (c :: found.1, found.2)
  | ['\\'] => none
  | c :: rest => (readQuoted rest).map fun found => (c :: found.1, found.2)

/-- Read a value, quoted or bare. A bare value is not empty. -/
def readValue : List Char → Option (List Char × List Char)
  | '"' :: rest => readQuoted rest
  | text =>
    let bare := text.takeWhile fun c => !endsBare c
    if bare.isEmpty then none else some (bare, text.dropWhile fun c => !endsBare c)

/-- Read values that each follow a space, as many as there are. The first number bounds the values
to read; the length of the text is enough. -/
def readGroup : Nat → List Char → Option (List String × List Char)
  | bound + 1, ' ' :: text => do
    let (value, rest) ← readValue text
    let (more, behind) ← readGroup bound rest
    some (String.ofList value :: more, behind)
  | _, text => some ([], text)

/-- Read the rest of the fixed part, at least one value, up to the closing parenthesis. -/
def readFixed : Nat → List Char → Option (List String × List Char)
  | 0, _ => none
  | bound + 1, text => do
    let (value, rest) ← readValue text
    match rest with
    | ')' :: behind => some ([String.ofList value], behind)
    | ' ' :: next =>
      let (more, behind) ← readFixed bound next
      some (String.ofList value :: more, behind)
    | _ => none

/-- Read the fixed part, parentheses included. -/
def readParenthesized (text : List Char) : Option (List String × List Char) :=
  match text with
  | '(' :: ')' :: behind => some ([], behind)
  | '(' :: rest => readFixed rest.length rest
  | _ => none

/-- Take an echo apart. Nothing may follow it. -/
def parse (text : String) : Option Echo := do
  let (owner, rest) ← Text.splitFirst ':' text.toList
  let (group, rest) ← readGroup rest.length rest
  let (fixed, rest) ← readParenthesized rest
  if rest.isEmpty then some ⟨String.ofList owner, group, fixed⟩ else none

/-- The owner of an echo, which is what stands before the first colon. -/
def owner? (text : String) : Option String :=
  (Text.splitFirst ':' text.toList).map fun parts => String.ofList parts.1

/-- Read the values of an echo at the types of parameters: a group parameter takes the whole group,
every other one the next fixed text. A value that cannot be read is left out. -/
def decodeAs (group : List String) : List String → List ParamType → List (Option Value)
  | _, [] => []
  | fixed, .stringGroup :: types => some (.group group) :: decodeAs group fixed types
  | [], _ :: types => none :: decodeAs group [] types
  | text :: fixed, type :: types => Value.read type text.toList :: decodeAs group fixed types

/-- The values of an echo at the parameters of a signature. -/
def decode (echo : Echo) (signature : Signature) : List (Option Value) :=
  decodeAs echo.group echo.fixed signature.params

end Echo

end Linkage
