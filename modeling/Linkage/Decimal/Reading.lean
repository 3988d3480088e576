import Linkage.Decimal.Binary

/-!
# Reading decimal text

A number is written as an optional sign and one of: `inf`, `infinity` or `nan` in any case; or
digits with at most one decimal point and at least one digit, and an optional exponent, a mark `e`
or `E` with an optional sign and at least one digit. Nothing may stand before or after it. The
value is the nearest number of the format.
-/

namespace Linkage.Decimal

open Text

/-- The optional exponent at the end of a number: nothing, or a mark and a signed row of digits. -/
def readExponent : List Char → Option Int
  | [] => some 0
  | mark :: text => if mark = 'e' || mark = 'E' then readInt text else none

/-- A bound on exponents worth looking at. With `length` digits in the coefficient, a larger
exponent overflows and a smaller one underflows in every format up to 64 bits. -/
def exponentBound (length : Nat) : Int := (length : Int) + 2000

/-- Bring a number into the interval from minus `bound` to `bound`. -/
def clamp (bound value : Int) : Int := max (-bound) (min bound value)

namespace Format

variable (f : Format)

/-- Read digits, point and exponent. -/
def readPositional (text : List Char) : Option Nat :=
  let whole := text.takeWhile isDigit
  let afterWhole := text.dropWhile isDigit
  let (fraction, tail) := match afterWhole with
    | '.' :: rest => (rest.takeWhile isDigit, rest.dropWhile isDigit)
    | rest => ([], rest)
  let row := whole ++ fraction
  if row.isEmpty then none
  else (readExponent tail).map fun exponent =>
    f.ofDecimal (valueOf row) (clamp (exponentBound row.length) exponent - (fraction.length : Int))

/-- Read a number without a sign. -/
def readMagnitude (text : List Char) : Option Nat :=
  let lower := text.map Char.toLower
  if lower = ['i', 'n', 'f'] || lower = ['i', 'n', 'f', 'i', 'n', 'i', 't', 'y'] then
    some f.infinity
  else if lower = ['n', 'a', 'n'] then some f.quietNaN
  else f.readPositional text

/-- Read a number; a minus sign sets the sign bit, whatever follows it. -/
def read (text : List Char) : Option Nat :=
  let (negative, rest) := takeSign text
  (f.readMagnitude rest).map fun magnitude => if negative then f.signBit + magnitude else magnitude

end Format

end Linkage.Decimal
