import StackScript.Number.Decimal

/-!
# Numerals: numbers written as text

The grammar is an optional sign, digits with at most one point and a digit on at least one side of
it, then optionally `e` or `E`, an optional sign and digits. Nothing else is a numeral: no words, no
blanks inside. `Numeral.ofChars?` reads the parts and `Numeral.toFloat` their value.
-/

namespace StackScript

/-- The parts of a number written as text. -/
structure Numeral where
  /-- Whether a minus sign stands in front. -/
  negative : Bool
  /-- The digits before the point. -/
  whole : List Char
  /-- The digits after the point. -/
  fraction : List Char
  /-- The power of ten after `e`. -/
  exponent : Int
deriving DecidableEq, Repr

namespace Numeral

/-- Splits an optional sign off; `true` stands for a minus. -/
def splitSign : List Char → Bool × List Char
  | '-' :: rest => (true, rest)
  | '+' :: rest => (false, rest)
  | cs => (false, cs)

/-- Splits the digits after a point off, if a point is next. -/
def splitFraction : List Char → List Char × List Char
  | '.' :: rest => (rest.takeWhile Char.isDigit, rest.dropWhile Char.isDigit)
  | cs => ([], cs)

/-- The integer written by a sign and digits. -/
def signedDigits (negative : Bool) (digits : List Char) : Int :=
  let n : Int := Nat.ofDigitChars 10 digits 0
  if negative then -n else n

/-- Reads the exponent part to the end of the text; an absent one is zero. -/
def exponentOf? : List Char → Option Int
  | [] => some 0
  | c :: rest =>
    let (negative, digits) := splitSign rest
    if (c = 'e' ∨ c = 'E') ∧ digits ≠ [] ∧ digits.all Char.isDigit then
      some (signedDigits negative digits)
    else
      none

/-- Reads a numeral that takes up the whole text. -/
def ofChars? (cs : List Char) : Option Numeral :=
  let (negative, body) := splitSign cs
  let whole := body.takeWhile Char.isDigit
  let (fraction, tail) := splitFraction (body.dropWhile Char.isDigit)
  if whole ++ fraction = [] then
    none
  else
    (exponentOf? tail).map fun exponent ↦ ⟨negative, whole, fraction, exponent⟩

/-- The decimal written by the digits, the point and the exponent. -/
def decimal (n : Numeral) : Decimal :=
  ⟨Nat.ofDigitChars 10 (n.whole ++ n.fraction) 0, n.exponent - n.fraction.length⟩

/-- The nearest number to the numeral. -/
def toFloat (n : Numeral) : Float :=
  if n.negative then -n.decimal.toFloat else n.decimal.toFloat

end Numeral

end StackScript
