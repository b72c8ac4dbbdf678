import StackScript.Number.Decimal

/-!
# The fewest digits that read back

`shortest` gives a finite number other than zero the decimal with the fewest digits that reads as
that number, and among those the nearest to it. For one digit, then two and so on it looks at the
two neighbours of the number on the grid of decimals with so many digits, and keeps one that reads
back. Reading back is what is tested, so the answer reads as the number by construction; the exact
decimal value closes the search.
-/

namespace StackScript

/-- What to do with a number halfway between two decimals that both read as it. -/
inductive Tie where
  /-- Take the larger one. -/
  | up
  /-- Take the one whose last digit is even. -/
  | even
deriving DecidableEq, Repr

namespace Shortest

/-- The positive number `m * 2 ^ e` as a fraction. -/
def fraction (m : Nat) (e : Int) : Nat × Nat :=
  if 0 ≤ e then (m <<< e.toNat, 1) else (m, 1 <<< (-e).toNat)

/-- The power of ten of the leading digit of a positive fraction. -/
def leading (num den : Nat) : Int :=
  if den ≤ num then
    (Nat.toDigits 10 (num / den)).length - 1
  else
    -(Nat.toDigits 10 ((den - 1) / num)).length

/-- The fraction in units of `10 ^ q`. -/
def scaled (num den : Nat) (q : Int) : Nat × Nat :=
  if 0 ≤ q then (num, den * Nat.pow 10 q.toNat) else (num * Nat.pow 10 (-q).toNat, den)

/-- Of two neighbouring decimals that both read as the number, the nearer one. `rest` is how far
the number lies above the lower one, in units of `1 / unit`. -/
def nearer (tie : Tie) (rest unit : Nat) (below above : Decimal) : Decimal :=
  match compare (2 * rest) unit, tie with
  | .lt, _ => below
  | .gt, _ => above
  | .eq, .up => above
  | .eq, .even => if below.coefficient % 2 = 0 then below else above

/-- The decimal in units of `10 ^ q` that reads as `x` and lies nearest to `num / den`, if one of
the two neighbours does. -/
def onGrid (tie : Tie) (x : Float) (num den : Nat) (q : Int) : Option Decimal :=
  let (n, d) := scaled num den q
  let below : Decimal := ⟨n / d, q⟩
  let above : Decimal := ⟨n / d + 1, q⟩
  match below.toFloat == x, above.toFloat == x with
  | true, true => some (nearer tie (n % d) d below above)
  | true, false => some below
  | false, true => some above
  | false, false => none

/-- The number `m * 2 ^ e` written out in full. -/
def exact (m : Nat) (e : Int) : Decimal :=
  if 0 ≤ e then ⟨m <<< e.toNat, 0⟩ else ⟨m * Nat.pow 5 (-e).toNat, e⟩

end Shortest

open Shortest in
/-- The shortest decimal that reads as `x`, where `x` is `m * 2 ^ e` and positive. Seventeen digits
always suffice. -/
def shortest (tie : Tie) (x : Float) (m : Nat) (e : Int) : Decimal :=
  let (num, den) := fraction m e
  let top := leading num den
  let found := (List.range 17).findSome? fun n : Nat ↦ onGrid tie x num den (top - n)
  (found.getD (exact m e)).trim

end StackScript
