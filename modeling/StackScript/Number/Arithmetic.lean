/-!
# Number operations beyond the core ones

The remainder of a division whose quotient is cut toward zero, computed without rounding, and the
larger and smaller of two numbers, which look past an operand that is not a number.
-/

namespace StackScript.Number

open Float.Model

/-- The value that is not a number. -/
def nan : Float :=
  0 / 0

/-- The number with the given sign and magnitude `m * 2 ^ e`. -/
def ofParts (sign : UnpackedFloat.Sign) (m : Nat) (e : Int) : Float :=
  if m = 0 then
    .ofModel (pack (.zero sign))
  else
    .ofModel (pack (UnpackedFloat.round Format.binary64 sign m e))

/-- What is left of `x` after taking away `y` as often as it fits; the sign is that of `x`. Both
magnitudes are brought to the smaller of the two exponents, where the remainder is one of naturals. -/
def remainder (x y : Float) : Float :=
  match x.toModel.unpack, y.toModel.unpack with
  | .finite s m e _, .finite _ n f _ =>
    let g := min e f
    ofParts s ((m <<< (e - g).toNat) % (n <<< (f - g).toNat)) g
  | .zero _, .finite .. | .zero _, .infinity _ | .finite .., .infinity _ => x
  | _, _ => nan

/-- The larger of two numbers; one that is not a number gives way to the other. -/
def larger (x y : Float) : Float :=
  if x.isNaN || x < y then y else x

/-- The smaller of two numbers; one that is not a number gives way to the other. -/
def smaller (x y : Float) : Float :=
  if x.isNaN || y < x then y else x

end StackScript.Number
