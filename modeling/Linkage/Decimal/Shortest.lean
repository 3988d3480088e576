import Linkage.Decimal.Binary

/-!
# Shortest decimal forms

The decimal form of a finite magnitude is the coarsest decimal grid point that reads back to it.
The search goes from coarse grids to fine ones and tries the two neighbours of the magnitude on
each, the nearer one first; on the last grid the magnitude is itself a grid point. The text is
always positional: digits, zeros and a point, never an exponent.
-/

namespace Linkage.Decimal

open Text

/-- A decimal number: `coefficient` times ten to the power of `exponent`. -/
structure Number where
  coefficient : Nat
  exponent : Int
  deriving DecidableEq, Repr

namespace Format

variable (f : Format)

/-- The magnitude times ten to the power of `scale`, an integer. -/
def tenfold (magnitude : Nat) : Nat := f.units magnitude * Nat.pow 5 f.scale

/-- A neighbour of the magnitude on the grid of ten to the power of `place - scale` that reads back
to it: the nearer neighbour if it does, else the other. Halfway between them the upper one is
tried first. -/
def gridPoint? (magnitude place : Nat) : Option Number :=
  let lower := f.tenfold magnitude / Nat.pow 10 place
  let rest := f.tenfold magnitude % Nat.pow 10 place
  let exponent : Int := (place : Int) - (f.scale : Int)
  let neighbours := if 2 * rest < Nat.pow 10 place then [lower, lower + 1] else [lower + 1, lower]
  (neighbours.find? fun coefficient => f.ofDecimal coefficient exponent = magnitude).map
    fun coefficient => ⟨coefficient, exponent⟩

/-- The first grid point that reads back, from a given grid down to the finest. -/
def coarsest (magnitude : Nat) : Nat → Number
  | 0 => ⟨f.tenfold magnitude, -(f.scale : Int)⟩
  | place + 1 => (f.gridPoint? magnitude (place + 1)).getD (coarsest magnitude place)

/-- The shortest decimal number that reads back to a magnitude. Ten to the power of the starting
place exceeds `tenfold`, so no coarser grid has a point near the magnitude. -/
def shortest (magnitude : Nat) : Number :=
  f.coarsest magnitude (((f.tenfold magnitude).log2 + 1) * 30103 / 100000 + 1)

end Format

/-- Digits with a decimal point before the last `places` of them, and at least one digit before
the point. -/
def placePoint (row : List Char) (places : Nat) : List Char :=
  let padded := List.replicate (places + 1 - row.length) '0' ++ row
  padded.take (padded.length - places) ++ '.' :: padded.drop (padded.length - places)

/-- The positional text of a decimal number: zeros behind the digits for a positive exponent, a
point among them for a negative one. -/
def Number.text (d : Number) : List Char :=
  match d.exponent with
  | .ofNat zeros => digits d.coefficient ++ List.replicate zeros '0'
  | .negSucc places => placePoint (digits d.coefficient) (places + 1)

namespace Format

variable (f : Format)

/-- The text of a magnitude. -/
def magnitudeText (magnitude : Nat) : List Char :=
  if magnitude = 0 then ['0']
  else if magnitude = f.infinity then ['i', 'n', 'f']
  else (f.shortest magnitude).text

/-- The text of a number: a minus sign for a set sign bit, also before zero, and `NaN` without a
sign for everything that is not a number. -/
def print (bits : Nat) : List Char :=
  if f.infinity < f.magnitude bits then ['N', 'a', 'N']
  else if f.isNegative bits then '-' :: f.magnitudeText (f.magnitude bits)
  else f.magnitudeText (f.magnitude bits)

end Format

end Linkage.Decimal
