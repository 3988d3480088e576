import Linkage.Text.Numeral

/-!
# Binary floating point formats

A format is given by the width of its fraction and of its exponent. A number is held as its bits,
read as a natural number: the sign bit, then the magnitude. Magnitudes below `infinity` count the
finite numbers of one sign in increasing order, so rounding to nearest is arithmetic on natural
numbers: `units` gives a magnitude as a multiple of the smallest positive number of the format,
and `nearest` gives the magnitude closest to a quotient, halves going to the even magnitude.
Powers are written `Nat.pow`, which is the same function whatever algebra is imported.
-/

namespace Linkage.Decimal

/-- A binary floating point format. -/
structure Format where
  /-- Bits of the fraction. -/
  fractionBits : Nat
  /-- Bits of the exponent. -/
  exponentBits : Nat
  deriving DecidableEq, Repr

namespace Format

/-- The 32 bit format. -/
def single : Format := ⟨23, 8⟩

/-- The 64 bit format. -/
def double : Format := ⟨52, 11⟩

variable (f : Format)

/-- The smallest positive number is two to the power of minus `scale`. -/
def scale : Nat := Nat.pow 2 (f.exponentBits - 1) - 2 + f.fractionBits

/-- The magnitude of infinity, just above the largest finite number. -/
def infinity : Nat := (Nat.pow 2 f.exponentBits - 1) * Nat.pow 2 f.fractionBits

/-- The magnitude of the canonical NaN: quiet, with an empty payload. -/
def quietNaN : Nat := f.infinity + Nat.pow 2 (f.fractionBits - 1)

/-- The bit that marks a negative number. -/
def signBit : Nat := Nat.pow 2 (f.fractionBits + f.exponentBits)

/-- Whether the sign bit is set. -/
def isNegative (bits : Nat) : Bool := bits / f.signBit % 2 = 1

/-- The bits without the sign. -/
def magnitude (bits : Nat) : Nat := bits % f.signBit

/-- A finite magnitude as a multiple of the smallest positive number. -/
def units (magnitude : Nat) : Nat :=
  let exponent := magnitude / Nat.pow 2 f.fractionBits
  let fraction := magnitude % Nat.pow 2 f.fractionBits
  if exponent = 0 then fraction
  else (Nat.pow 2 f.fractionBits + fraction) * Nat.pow 2 (exponent - 1)

end Format

/-- The integer nearest to a quotient; a half goes to the even neighbour. -/
def roundHalfEven (numerator denominator : Nat) : Nat :=
  let quotient := numerator / denominator
  let rest := numerator % denominator
  if 2 * rest < denominator then quotient
  else if denominator < 2 * rest then quotient + 1
  else quotient + quotient % 2

namespace Format

variable (f : Format)

/-- The magnitude nearest to a quotient. The significand is rounded on the grid of its binade;
a carry out of the significand is a carry into the exponent, so one sum covers every case, and
whatever passes the largest finite number is infinite. -/
def nearest (numerator denominator : Nat) : Nat :=
  let scaled := numerator * Nat.pow 2 f.scale
  let binade := (scaled / denominator).log2 - f.fractionBits
  let significand := roundHalfEven scaled (denominator * Nat.pow 2 binade)
  min f.infinity (binade * Nat.pow 2 f.fractionBits + significand)

/-- The magnitude nearest to `coefficient` times ten to the power of `exponent`. -/
def ofDecimal (coefficient : Nat) : Int → Nat
  | .ofNat e => f.nearest (coefficient * Nat.pow 10 e) 1
  | .negSucc e => f.nearest coefficient (Nat.pow 10 (e + 1))

end Format

end Linkage.Decimal
