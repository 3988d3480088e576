import Linkage.Json.Value
import Linkage.Text.Numeral

/-!
# Reading JSON

A document is one value with blanks around it. Strings are kept as written and only checked for
their form: no control characters, and every backslash begins an escape. The nesting of a value is
bounded by the length of the document, so the bound never shows.
-/

namespace Linkage.Json

/-- The blanks of JSON. -/
def isBlank (c : Char) : Bool := c = ' ' || c = '\t' || c = '\n' || c = '\r'

/-- The text behind leading blanks. -/
def skip (text : List Char) : List Char := text.dropWhile isBlank

/-- Read the rest of a string up to its closing quote. -/
def readString : List Char → Option (List Char × List Char)
  | [] => none
  | '"' :: rest => some ([], rest)
  | '\\' :: 'u' :: a :: b :: c :: d :: rest =>
    if (hexUnit? a b c d).isSome then
      (readString rest).map fun found => ('\\' :: 'u' :: a :: b :: c :: d :: found.1, found.2)
    else none
  | '\\' :: letter :: rest =>
    if shortEscapes.any fun entry => entry.1 = letter then
      (readString rest).map fun found => ('\\' :: letter :: found.1, found.2)
    else none
  | c :: rest =>
    if c = '\\' || c.toNat < 0x20 then none
    else (readString rest).map fun found => (c :: found.1, found.2)

/-- Split leading digits off a text, at least one. -/
def takeDigits (text : List Char) : Option (List Char × List Char) :=
  let row := text.takeWhile Text.isDigit
  if row.isEmpty then none else some (row, text.dropWhile Text.isDigit)

/-- Split the whole part of a number off a text. It has no leading zeros. -/
def takeWhole : List Char → Option (List Char × List Char)
  | '0' :: c :: rest => if Text.isDigit c then none else some (['0'], c :: rest)
  | text => takeDigits text

/-- Split the part behind a decimal point off a text, if there is a point. -/
def takeFraction : List Char → Option (List Char × List Char)
  | '.' :: rest => (takeDigits rest).map fun found => ('.' :: found.1, found.2)
  | text => some ([], text)

/-- Split an exponent off a text, if there is a mark for one. -/
def takeExponent : List Char → Option (List Char × List Char)
  | mark :: rest =>
    if mark = 'e' || mark = 'E' then
      match rest with
      | sign :: more =>
        if sign = '+' || sign = '-' then
          (takeDigits more).map fun found => (mark :: sign :: found.1, found.2)
        else (takeDigits rest).map fun found => (mark :: found.1, found.2)
      | [] => none
    else some ([], mark :: rest)
  | [] => some ([], [])

/-- Read a number. -/
def readNumber (text : List Char) : Option (Json × List Char) := do
  let (sign, rest) := match text with
    | '-' :: rest => (['-'], rest)
    | rest => ([], rest)
  let (whole, rest) ← takeWhole rest
  let (fraction, rest) ← takeFraction rest
  let (exponent, rest) ← takeExponent rest
  some (number (String.ofList (sign ++ whole ++ fraction ++ exponent)), rest)

mutual

/-- Read a value behind any blanks. -/
def readValue : Nat → List Char → Option (Json × List Char)
  | 0, _ => none
  | bound + 1, text =>
    match skip text with
    | 'n' :: 'u' :: 'l' :: 'l' :: rest => some (null, rest)
    | 't' :: 'r' :: 'u' :: 'e' :: rest => some (boolean true, rest)
    | 'f' :: 'a' :: 'l' :: 's' :: 'e' :: rest => some (boolean false, rest)
    | '"' :: rest =>
      (readString rest).map fun found => (string (String.ofList found.1), found.2)
    | '[' :: rest =>
      match skip rest with
      | ']' :: behind => some (array [], behind)
      | inner => (readItems bound inner).map fun found => (array found.1, found.2)
    | '\x7b' :: rest =>
      match skip rest with
      | '\x7d' :: behind => some (object [], behind)
      | inner => (readFields bound inner).map fun found => (object found.1, found.2)
    | rest => readNumber rest

/-- Read the items of an array, at least one, up to the closing bracket. -/
def readItems : Nat → List Char → Option (List Json × List Char)
  | 0, _ => none
  | bound + 1, text => do
    let (item, rest) ← readValue bound text
    match skip rest with
    | ']' :: behind => some ([item], behind)
    | ',' :: next =>
      let (more, behind) ← readItems bound next
      some (item :: more, behind)
    | _ => none

/-- Read the fields of an object, at least one, up to the closing brace. -/
def readFields : Nat → List Char → Option (List (String × Json) × List Char)
  | 0, _ => none
  | bound + 1, text =>
    match skip text with
    | '"' :: rest => do
      let (name, rest) ← readString rest
      match skip rest with
      | ':' :: rest =>
        let (value, rest) ← readValue bound rest
        match skip rest with
        | '\x7d' :: behind => some ([(String.ofList name, value)], behind)
        | ',' :: next =>
          let (more, behind) ← readFields bound next
          some ((String.ofList name, value) :: more, behind)
        | _ => none
      | _ => none
    | _ => none

end

/-- Read a document. Nothing but blanks may follow the value. -/
def parse (document : String) : Option Json := do
  let text := document.toList
  let (value, rest) ← readValue (text.length + 1) text
  if (skip rest).isEmpty then some value else none

end Linkage.Json
