import StackScript.Diagnostic.Basic

/-!
# Failures

A failure is the cause of a diagnostic, with what the cause is about. It does not know where in the
source it happened: whatever an instruction does, it does without looking at source ranges, and
`Failure.diagnose` adds the range at the end.
-/

namespace StackScript

/-- Why an instruction failed. -/
inductive Failure where
  /-- An operator met an array. -/
  | arrayOperand (operator : Token)
  /-- An arithmetic operator met a boolean. -/
  | booleanOperand (operator : Token)
  /-- An arithmetic operator met a string that is not a number. -/
  | stringOperand (operator : Token)
  /-- An array was used as an index. -/
  | arrayIndex
  /-- A library method refused its arguments. -/
  | libraryCallFailed (method reason : String)
  /-- The operand stack was full. -/
  | stackOverflow (limit : Nat)
  /-- The call stack was full. -/
  | callOverflow (limit : Nat)
  /-- An instruction found too few operands. -/
  | stackUnderflow (operation : String)
  /-- A return had no call to return to. -/
  | returnWithoutCall
  /-- Control left the program. -/
  | invalidTarget (target : Nat)
  /-- A library or one of its methods does not exist. -/
  | unknownMethod (method : String)
deriving DecidableEq, Repr

namespace Failure

def kind : Failure → Diagnostic.Kind
  | arrayOperand _ => .arrayOperand
  | booleanOperand _ => .booleanOperand
  | stringOperand _ => .stringOperand
  | arrayIndex => .arrayIndex
  | libraryCallFailed _ _ => .libraryCallFailed
  | stackOverflow _ => .stackOverflow
  | callOverflow _ => .callOverflow
  | stackUnderflow _ => .stackUnderflow
  | returnWithoutCall => .returnWithoutCall
  | invalidTarget _ => .invalidTarget
  | unknownMethod _ => .unknownMethod

/-- What fills the slots of the message. -/
def arguments : Failure → List String
  | arrayOperand t | booleanOperand t | stringOperand t => [t.text]
  | arrayIndex | returnWithoutCall => []
  | libraryCallFailed method reason => [method, reason]
  | stackOverflow n | callOverflow n | invalidTarget n => [toString n]
  | stackUnderflow name | unknownMethod name => [name]

/-- The diagnostic of the failure of an instruction with the given source range. -/
def diagnose (f : Failure) (range : Range) : Diagnostic :=
  ⟨f.kind, range, f.arguments⟩

end Failure

end StackScript
