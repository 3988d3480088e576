/-!
# JSON values

A JSON value keeps its strings and numbers as they are written. `escape` writes a text as a string
and `decode` reads it back; a string may be well formed and yet stand for no text, when an escape
names half a surrogate pair.

Values are written in two layouts: `compact` without blanks, `pretty` with one entry a line,
indented by two spaces a level.
-/

namespace Linkage

/-- A JSON value. Strings, field names among them, are what stands between the quotes. -/
inductive Json where
  | null
  | boolean (b : Bool)
  | number (written : String)
  | string (written : String)
  | array (items : List Json)
  | object (fields : List (String × Json))
  deriving Repr, Inhabited

namespace Json

/-- A lower case hexadecimal digit. -/
def hexDigit (n : Nat) : Char := if n < 10 then Char.ofNat (48 + n) else Char.ofNat (87 + n)

/-- The value of a hexadecimal digit in either case. -/
def hexValue? (c : Char) : Option Nat :=
  if '0' ≤ c && c ≤ '9' then some (c.toNat - 48)
  else if 'a' ≤ c && c ≤ 'f' then some (c.toNat - 87)
  else if 'A' ≤ c && c ≤ 'F' then some (c.toNat - 55)
  else none

/-- The letters of the short escapes and the characters they stand for. -/
def shortEscapes : List (Char × Char) :=
  [('"', '"'), ('\\', '\\'), ('/', '/'), ('b', '\x08'), ('f', '\x0c'), ('n', '\n'), ('r', '\r'),
   ('t', '\t')]

/-- A character as it is written in a string: short escapes where there are any, four hexadecimal
digits for other control characters, and everything else as it is. -/
def escapeChar (c : Char) : List Char :=
  match shortEscapes.find? fun entry => entry.2 = c && c != '/' with
  | some (letter, _) => ['\\', letter]
  | none =>
    if c.toNat < 0x20 then ['\\', 'u', '0', '0', hexDigit (c.toNat / 16), hexDigit (c.toNat % 16)]
    else [c]

/-- A text as it is written in a string. -/
def escape (text : String) : String := String.ofList (text.toList.flatMap escapeChar)

/-- The string of a text. -/
def ofText (text : String) : Json := string (escape text)

/-- The string of a text, or null. -/
def ofText? : Option String → Json
  | some text => ofText text
  | none => null

/-- The number of a natural number. -/
def ofNat (n : Nat) : Json := number (toString n)

/-- Whether a code unit is the first half of a surrogate pair. -/
def isLeading (unit : Nat) : Bool := 0xD800 ≤ unit && unit < 0xDC00

/-- Whether a code unit is the second half of a surrogate pair. -/
def isTrailing (unit : Nat) : Bool := 0xDC00 ≤ unit && unit < 0xE000

/-- The number written by four hexadecimal digits. -/
def hexUnit? (a b c d : Char) : Option Nat := do
  return (((← hexValue? a) * 16 + (← hexValue? b)) * 16 + (← hexValue? c)) * 16 + (← hexValue? d)

/-- The text a written string stands for. -/
def decodeChars : List Char → Option (List Char)
  | [] => some []
  | '\\' :: 'u' :: a :: b :: c :: d :: rest => do
    let unit ← hexUnit? a b c d
    if isTrailing unit then none
    else if isLeading unit then
      match rest with
      | '\\' :: 'u' :: e :: f :: g :: h :: behind =>
        let second ← hexUnit? e f g h
        if isTrailing second then
          let more ← decodeChars behind
          some (Char.ofNat (0x10000 + (unit - 0xD800) * 0x400 + (second - 0xDC00)) :: more)
        else none
      | _ => none
    else
      let more ← decodeChars rest
      some (Char.ofNat unit :: more)
  | '\\' :: letter :: rest => do
    let entry ← shortEscapes.find? fun entry => entry.1 = letter
    let more ← decodeChars rest
    some (entry.2 :: more)
  | ['\\'] => none
  | c :: rest => do
    let more ← decodeChars rest
    some (c :: more)

/-- The text a written string stands for. -/
def decode (written : String) : Option String := (decodeChars written.toList).map String.ofList

/-- A written string between its quotes. -/
def inQuotes (written : String) : String := "\"" ++ written ++ "\""

mutual

/-- A value without blanks. -/
def compact : Json → String
  | null => "null"
  | boolean true => "true"
  | boolean false => "false"
  | number written => written
  | string written => inQuotes written
  | array items => "[" ++ ",".intercalate (compactItems items) ++ "]"
  | object fields => "\x7b" ++ ",".intercalate (compactFields fields) ++ "\x7d"

/-- The items of an array without blanks. -/
def compactItems : List Json → List String
  | [] => []
  | item :: rest => compact item :: compactItems rest

/-- The fields of an object without blanks. -/
def compactFields : List (String × Json) → List String
  | [] => []
  | (name, value) :: rest => (inQuotes name ++ ":" ++ compact value) :: compactFields rest

end

/-- A line feed and the indentation of a level. -/
def newLine (level : Nat) : String := "\n" ++ String.ofList (List.replicate (2 * level) ' ')

/-- Entries between brackets, one a line; nothing at all between the brackets of an empty list. -/
def bracketed (opening closing : String) (level : Nat) (entries : List String) : String :=
  if entries.isEmpty then opening ++ closing
  else opening ++ newLine (level + 1) ++ ("," ++ newLine (level + 1)).intercalate entries ++
    newLine level ++ closing

mutual

/-- A value on several lines, at a level of indentation. -/
def prettyAt (level : Nat) : Json → String
  | null => "null"
  | boolean true => "true"
  | boolean false => "false"
  | number written => written
  | string written => inQuotes written
  | array items => bracketed "[" "]" level (prettyItems (level + 1) items)
  | object fields => bracketed "\x7b" "\x7d" level (prettyFields (level + 1) fields)

/-- The items of an array, at a level of indentation. -/
def prettyItems (level : Nat) : List Json → List String
  | [] => []
  | item :: rest => prettyAt level item :: prettyItems level rest

/-- The fields of an object, at a level of indentation. -/
def prettyFields (level : Nat) : List (String × Json) → List String
  | [] => []
  | (name, value) :: rest => (inQuotes name ++ ": " ++ prettyAt level value) :: prettyFields level rest

end

/-- A value on several lines. -/
def pretty (value : Json) : String := prettyAt 0 value

end Json

end Linkage
