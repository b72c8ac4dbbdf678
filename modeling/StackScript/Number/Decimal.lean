/-!
# Decimals and the numbers they read as

A decimal is a natural coefficient scaled by a power of ten. It reads as the binary number nearest
to it. Trailing zeros of the coefficient are moved into the exponent before reading, so that all
ways to write one decimal (`1200`, `12e2`, `1.2e3`) are read from the same pair, and a text and the
decimal it was laid out from agree without an argument about rounding.
-/

namespace StackScript

/-- The number `coefficient * 10 ^ exponent`. -/
structure Decimal where
  /-- The digits, as one natural number. -/
  coefficient : Nat
  /-- The power of ten that scales them. -/
  exponent : Int
deriving DecidableEq, Repr

namespace Decimal

/-- Moves the trailing zeros of the coefficient into the exponent. -/
def trim (d : Decimal) : Decimal :=
  if h : d.coefficient ≠ 0 ∧ d.coefficient % 10 = 0 then
    trim ⟨d.coefficient / 10, d.exponent + 1⟩
  else
    d
termination_by d.coefficient
decreasing_by exact Nat.div_lt_self (Nat.pos_of_ne_zero h.1) (by decide)

/-- The binary number nearest to the decimal; halfway between two, the one with the even
significand. Too large a decimal reads as infinity. -/
def toFloat (d : Decimal) : Float :=
  Float.ofScientific d.trim.coefficient (d.trim.exponent < 0) d.trim.exponent.natAbs

def digits (d : Decimal) : List Char :=
  Nat.toDigits 10 d.coefficient

/-- The power of ten of the leading digit. -/
def leading (d : Decimal) : Int :=
  d.exponent + d.digits.length - 1

end Decimal

end StackScript
