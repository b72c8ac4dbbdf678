import StackScript.Json.Reader

/-!
# Numbers in JSON texts

An integer is read exactly as long as it fits 64 bits. Everything else becomes a binary number from a
64-bit significand and a power of ten: digits that no longer fit the significand only count for the
power, and the significand is multiplied or divided by the power of ten in binary arithmetic. The
result is therefore near the written number and not always the nearest to it.
-/

namespace StackScript.Json

/-- A number as it was written. -/
inductive Num where
  /-- A natural number below `2 ^ 64`. -/
  | natural (n : Nat)
  /-- The negative of a natural number from one to `2 ^ 63`. -/
  | negative (n : Nat)
  /-- Any other number. -/
  | float (x : Float)

namespace Num

def toFloat : Num → Float
  | natural n => Float.ofNat n
  | negative n => -Float.ofNat n
  | float x => x

def digitValue (c : Char) : Nat :=
  c.toNat - '0'.toNat

/-- Digits taken into a significand: the significand, how many were taken, and the text behind
them. -/
structure Filled where
  /-- The significand. -/
  significand : Nat
  /-- How many digits were taken. -/
  count : Nat
  /-- The text behind the digits. -/
  rest : List Char

/-- Takes digits into a significand as long as it does not exceed `bound`. -/
def fill (bound s count : Nat) : List Char → Filled
  | [] => ⟨s, count, []⟩
  | c :: cs =>
    if c.isDigit ∧ s * 10 + digitValue c ≤ bound then
      fill bound (s * 10 + digitValue c) (count + 1) cs
    else
      ⟨s, count, c :: cs⟩

/-- The largest significand. -/
def largest : Nat := UInt64.size - 1

/-- The largest power of ten that is written out. -/
def largestExponent : Nat := 2147483647

/-- The binary number nearest to a power of ten. -/
def powerOfTen (k : Nat) : Float :=
  Float.ofScientific 1 false k

/-- The number times a power of ten, in steps that the range of binary numbers allows; `none` if it
is too large. -/
def scale (f : Float) (e : Int) : Option Float :=
  if e.natAbs ≤ 308 then
    if 0 ≤ e then
      let y := f * powerOfTen e.toNat
      if y.isInf then none else some y
    else
      some (f / powerOfTen e.natAbs)
  else if f == 0 then
    some f
  else if 0 < e then
    none
  else
    scale (f / powerOfTen 308) (e + 308)
termination_by e.natAbs

def signed (negative : Bool) (x : Float) : Float :=
  if negative then -x else x

open Reader

/-- Finishes a number that is no integer. -/
def finish (negative : Bool) (s : Nat) (e : Int) : Reader Num := do
  match scale (Float.ofNat s) e with
  | some x => return float (signed negative x)
  | none => here .numberOutOfRange

def fillFrom (bound s : Nat) : Reader (Nat × Nat) :=
  fun cs ↦
    let f := fill bound s 0 cs
    (.ok (f.significand, f.count), f.rest)

def digitNext : Reader Bool := do
  return (← peek?).any Char.isDigit

/-- Reads the exponent, at whose mark the reader stands. -/
def exponentPart (negative : Bool) (s : Nat) (e : Int) : Reader Num := do
  skip
  let sign ← peek?
  if sign = some '+' ∨ sign = some '-' then
    skip
  let below := sign = some '-'
  match ← peek? with
  | none => here (.endOf .value)
  | some c =>
    if c.isDigit then
      let (n, _) ← fillFrom largestExponent 0
      if ← digitNext then
        if s ≠ 0 ∧ !below then
          next .numberOutOfRange
        else
          skipWhile Char.isDigit
          return float (signed negative 0)
      else
        finish negative s (if below then e - n else e + n)
    else
      next .invalidNumber

/-- Reads what may follow the digits: an exponent or nothing. -/
def afterDigits (negative : Bool) (s : Nat) (e : Int) : Reader Num := do
  let c ← peek?
  if c = some 'e' ∨ c = some 'E' then
    exponentPart negative s e
  else
    finish negative s e

/-- Reads the fraction, at whose point the reader stands. -/
def fractionPart (negative : Bool) (s : Nat) (e : Int) : Reader Num := do
  skip
  let (s, count) ← fillFrom largest s
  let more ← digitNext
  if count = 0 ∧ !more then
    match ← peek? with
    | none => next (.endOf .value)
    | some _ => next .invalidNumber
  else
    skipWhile Char.isDigit
    afterDigits negative s (e - count)

/-- The integer with its sign. Negative zero and what is below the least 64-bit integer are no
integers. -/
def integer (isNegative : Bool) (s : Nat) : Num :=
  if !isNegative then natural s
  else if 0 < s ∧ s ≤ UInt64.size / 2 then negative s
  else float (-Float.ofNat s)

/-- Reads what may follow the whole digits; `dropped` of them did not fit the significand. -/
def afterWhole (negative : Bool) (s dropped : Nat) : Reader Num := do
  let c ← peek?
  if c = some '.' then
    fractionPart negative s dropped
  else if c = some 'e' ∨ c = some 'E' then
    exponentPart negative s dropped
  else if dropped = 0 then
    return integer negative s
  else
    finish negative s dropped

/-- Counts and drops the digits that come next. -/
def countDigits : Reader Nat :=
  fun cs ↦ (.ok (cs.takeWhile Char.isDigit).length, cs.dropWhile Char.isDigit)

/-- Reads a number behind its sign. -/
def unsigned (negative : Bool) : Reader Num := do
  match ← peek? with
  | none => here (.endOf .value)
  | some c =>
    if c = '0' then
      skip
      if ← digitNext then
        next .invalidNumber
      else
        afterWhole negative 0 0
    else if c.isDigit then
      let (s, _) ← fillFrom largest 0
      let dropped ← countDigits
      afterWhole negative s dropped
    else
      next .invalidNumber

def read : Reader Num := do
  if (← peek?) = some '-' then
    skip
    unsigned true
  else
    unsigned false

end Num

end StackScript.Json
