import Linkage.Decimal.Reading
import Linkage.Decimal.Shortest
import Linkage.Signature

/-!
# Argument values

A value of one of the ten parameter types. Floating point numbers are held as their bits, so two
values are the same exactly when they are equal, NaN payloads and the sign of zero included. Every
value has a text; `Value.read` reads the text of a value back at a given type, except for the
string group, whose text does not tell its strings apart.
-/

namespace Linkage

open Decimal

/-- An argument. -/
inductive Value where
  | boolean (b : Bool)
  | byte (n : Int8)
  | short (n : Int16)
  | char (c : Char)
  | int (n : Int32)
  | long (n : Int64)
  | float (bits : UInt32)
  | double (bits : UInt64)
  | string (s : String)
  | group (strings : List String)
  deriving DecidableEq, Repr, Inhabited

namespace Value

/-- The parameter type a value belongs to. -/
def type : Value → ParamType
  | boolean _ => .boolean
  | byte _ => .byte
  | short _ => .short
  | char _ => .char
  | int _ => .int
  | long _ => .long
  | float _ => .float
  | double _ => .double
  | string _ => .string
  | group _ => .stringGroup

/-- The characters of a value's text. -/
def chars : Value → List Char
  | boolean true => ['t', 'r', 'u', 'e']
  | boolean false => ['f', 'a', 'l', 's', 'e']
  | byte n => Text.ofInt n.toInt
  | short n => Text.ofInt n.toInt
  | char c => [c]
  | int n => Text.ofInt n.toInt
  | long n => Text.ofInt n.toInt
  | float bits => Format.single.print bits.toNat
  | double bits => Format.double.print bits.toNat
  | string s => s.toList
  | group strings => (" ".intercalate strings).toList

/-- The text of a value. -/
def text (value : Value) : String := String.ofList value.chars

/-- Read an integer between two bounds, both included. -/
def readWithin (low high : Int) (text : List Char) : Option Int :=
  (Text.readInt text).filter fun n => low ≤ n && n ≤ high

/-- Read a text as a value of a type. -/
def read : ParamType → List Char → Option Value
  | .boolean, text =>
    if text = ['t', 'r', 'u', 'e'] then some (boolean true)
    else if text = ['f', 'a', 'l', 's', 'e'] then some (boolean false)
    else none
  | .byte, text =>
    (readWithin Int8.minValue.toInt Int8.maxValue.toInt text).map fun n => byte (Int8.ofInt n)
  | .short, text =>
    (readWithin Int16.minValue.toInt Int16.maxValue.toInt text).map fun n => short (Int16.ofInt n)
  | .char, text => match text with
    | [c] => some (char c)
    | _ => none
  | .int, text =>
    (readWithin Int32.minValue.toInt Int32.maxValue.toInt text).map fun n => int (Int32.ofInt n)
  | .long, text =>
    (readWithin Int64.minValue.toInt Int64.maxValue.toInt text).map fun n => long (Int64.ofInt n)
  | .float, text => (Format.single.read text).map fun bits => float (UInt32.ofNat bits)
  | .double, text => (Format.double.read text).map fun bits => double (UInt64.ofNat bits)
  | .string, text => some (string (String.ofList text))
  | .stringGroup, _ => none

/-- What is read at a type belongs to that type. -/
theorem type_of_read {type : ParamType} {text : List Char} {value : Value}
    (h : read type text = some value) : value.type = type := by
  cases type <;> simp only [read, Option.map_eq_some_iff, reduceCtorEq] at h
  case boolean =>
    split at h
    · cases h; rfl
    · split at h
      · cases h; rfl
      · cases h
  case char =>
    split at h
    · cases h; rfl
    · cases h
  case string => cases h; rfl
  all_goals obtain ⟨n, _, rfl⟩ := h; rfl

end Value

/-- The slot that carries the sensitive value. -/
def sensitiveSlot : Nat := 8

/-- The arguments every scenario calls with: one value of each type, the sensitive slot still
empty. -/
def canonicalArguments : List Value :=
  [.boolean true, .byte 42, .short 666, .char '*', .int (-559038737), .long 944260662268981261,
   .float 0x3f7d70a4, .double 0x400921fb54442d18, .string "", .group ["some", "strings"]]

/-- Arguments with a string in the sensitive slot, if there are enough of them to have the slot. -/
def withSensitive (values : List Value) (sensitive : String) : List Value :=
  values.set sensitiveSlot (.string sensitive)

end Linkage
