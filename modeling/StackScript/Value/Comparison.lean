import StackScript.Value.Basic

/-!
# Comparison of values

Two values are equal if they are equal numbers, equal strings or equal booleans, if one is a number
and the other a string that reads as it, or if one is a boolean and the other a string that spells
it. Arrays are equal if they are shown alike. Only values that read as numbers are ever less or
greater than one another.
-/

namespace StackScript

/-- The ways to compare two values. -/
inductive Comparison where
  | equal
  | notEqual
  | lessThan
  | greaterThan
  | lessThanOrEqual
  | greaterThanOrEqual
deriving DecidableEq, Repr

namespace Value

/-- Equality as programs see it. -/
def equals : Value → Value → Bool
  | array es, array fs => (array es).shown == (array fs).shown
  | array _, _ | _, array _ => false
  | number m, number n => m == n
  | number n, string s | string s, number n => (Number.read? s).any (· == n)
  | number _, boolean _ | boolean _, number _ => false
  | string s, string t => s == t
  | string s, boolean b | boolean b, string s => Boolean.spelledBy b s
  | boolean a, boolean b => a == b

/-- Both values as numbers; arrays have no order. -/
def readings? (v w : Value) : Option (Float × Float) :=
  if v.isArray || w.isArray then
    none
  else do
    let m ← v.number?
    let n ← w.number?
    return (m, n)

/-- Whether both values read as numbers and the first is the smaller one. -/
def less (v w : Value) : Bool :=
  match readings? v w with
  | some (m, n) => m < n
  | none => false

/-- Whether both values read as numbers and the first is the larger one. -/
def greater (v w : Value) : Bool :=
  match readings? v w with
  | some (m, n) => m > n
  | none => false

def compare : Comparison → Value → Value → Bool
  | .equal, v, w => v.equals w
  | .notEqual, v, w => !v.equals w
  | .lessThan, v, w => v.less w
  | .greaterThan, v, w => v.greater w
  | .lessThanOrEqual, v, w => v.less w || v.equals w
  | .greaterThanOrEqual, v, w => v.greater w || v.equals w

end Value

end StackScript
