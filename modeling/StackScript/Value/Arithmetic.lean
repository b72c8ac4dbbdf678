import StackScript.Diagnostic.Failure
import StackScript.Value.Basic

/-!
# Arithmetic on values

Subtraction, multiplication, division and negation work on numbers and on strings that read as
numbers. Addition also joins texts: it adds if both sides read as numbers and otherwise joins them.
No operator takes an array, and an array on either side is reported before anything else.
-/

namespace StackScript

/-- The operators between two values. -/
inductive Operator where
  | add
  | subtract
  | multiply
  | divide
deriving DecidableEq, Repr

def Operator.token : Operator → Token
  | add => .plus
  | subtract => .minus
  | multiply => .multiply
  | divide => .divide

namespace Value

/-- The value as an operand of an arithmetic operator. -/
def operand (operator : Token) : Value → Except Failure Float
  | number n => .ok n
  | string s =>
    match Number.read? s with
    | some n => .ok n
    | none => .error (.stringOperand operator)
  | boolean _ => .error (.booleanOperand operator)
  | array _ => .error (.arrayOperand operator)

/-- Two values as operands: arrays are refused first, then the left one is read, then the right. -/
def operands (operator : Token) (v w : Value) : Except Failure (Float × Float) :=
  if v.isArray || w.isArray then
    .error (.arrayOperand operator)
  else
    match v.operand operator, w.operand operator with
    | .error f, _ => .error f
    | .ok _, .error f => .error f
    | .ok m, .ok n => .ok (m, n)

/-- The sum of two values that read as numbers, or else the two texts joined. -/
def add (v w : Value) : Except Failure Value :=
  if v.isArray || w.isArray then
    .error (.arrayOperand .plus)
  else
    match v.number?, w.number? with
    | some m, some n => .ok (number (m + n))
    | _, _ => .ok (string (v.text ++ w.text))

def subtract (v w : Value) : Except Failure Value :=
  (operands .minus v w).map fun (m, n) ↦ number (m - n)

def multiply (v w : Value) : Except Failure Value :=
  (operands .multiply v w).map fun (m, n) ↦ number (m * n)

def divide (v w : Value) : Except Failure Value :=
  (operands .divide v w).map fun (m, n) ↦ number (m / n)

/-- The value with its sign turned. -/
def negate (v : Value) : Except Failure Value :=
  (v.operand .minus).map fun n ↦ number (-n)

def apply : Operator → Value → Value → Except Failure Value
  | .add => add
  | .subtract => subtract
  | .multiply => multiply
  | .divide => divide

end Value

end StackScript
