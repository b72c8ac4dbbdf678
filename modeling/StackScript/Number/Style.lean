import StackScript.Number.Shortest

/-!
# Number text

A number is written with its shortest digits, either in full or with an exponent. A `Style` says
which numbers are written in full, whether a whole number keeps a point, what becomes of the sign of
zero, which way ties go, and what stands for the values that are no numbers.
-/

namespace StackScript

/-- The decisions that tell one number format from another. -/
structure Style where
  /-- Whether a number whose leading digit has this power of ten is written in full. -/
  plain : Int → Bool
  /-- Whether a whole number written in full ends in `.0`. -/
  keepsPoint : Bool
  /-- Whether negative zero shows its sign. -/
  signsZero : Bool
  /-- Which of two equally near decimals is taken. -/
  tie : Tie
  /-- The text of the value that is not a number. -/
  notANumber : String
  /-- The text of positive infinity. -/
  infinity : String
  /-- The text of negative infinity. -/
  negativeInfinity : String

namespace Style

/-- Digits written in full, with `whole` of them before the point. -/
def positional (keepsPoint : Bool) (digits : List Char) (whole : Int) : List Char :=
  if whole ≤ 0 then
    '0' :: '.' :: (List.replicate (-whole).toNat '0' ++ digits)
  else if whole < digits.length then
    digits.take whole.toNat ++ '.' :: digits.drop whole.toNat
  else
    digits ++ List.replicate (whole.toNat - digits.length) '0' ++
      (if keepsPoint then ['.', '0'] else [])

/-- The exponent part: its sign is always written. -/
def exponentPart (e : Int) : List Char :=
  'e' :: (if e < 0 then '-' else '+') :: Nat.toDigits 10 e.natAbs

/-- One digit, a point before the others if there are any, and the exponent. -/
def scientific : List Char → Int → List Char
  | [], e => exponentPart e
  | [d], e => d :: exponentPart e
  | d :: rest, e => d :: '.' :: (rest ++ exponentPart e)

def layout (style : Style) (d : Decimal) : List Char :=
  if style.plain d.leading then
    positional style.keepsPoint d.digits (d.leading + 1)
  else
    scientific d.digits d.leading

def signed (negative : Bool) (cs : List Char) : List Char :=
  if negative then '-' :: cs else cs

def text (style : Style) (x : Float) : String :=
  match x.toModel.unpack with
  | .notANumber => style.notANumber
  | .infinity .positive => style.infinity
  | .infinity .negative => style.negativeInfinity
  | .zero s => String.ofList
      (signed (style.signsZero && s == .negative) (style.layout ⟨0, 0⟩))
  | .finite s m e _ => String.ofList
      (signed (s == .negative) (style.layout (shortest style.tie x.abs m e)))

end Style

end StackScript
