import StackScript.Diagnostic.Template

/-!
# Kinds of failure

Each kind of failure has a category, which says whose mistake it is, and a message template whose
slots the arguments of a diagnostic fill.
-/

namespace StackScript.Diagnostic

/-- Whose mistake a failure is. -/
inductive Category where
  /-- An operator was used on a value that it never takes. -/
  | operatorMisuse
  /-- A value could not be read as what was needed. -/
  | typeCoercion
  /-- A limit was reached. -/
  | resourceLimit
  /-- The program itself is not well formed. -/
  | internalConsistency
deriving DecidableEq, Repr

namespace Category

def all : List (String × Category) := [
  ("OperatorMisuse", .operatorMisuse), ("TypeCoercion", .typeCoercion),
  ("ResourceLimit", .resourceLimit), ("InternalConsistency", .internalConsistency)]

/-- The name under which a category is stored. -/
def name : Category → String
  | .operatorMisuse => "OperatorMisuse"
  | .typeCoercion => "TypeCoercion"
  | .resourceLimit => "ResourceLimit"
  | .internalConsistency => "InternalConsistency"

/-- The label by which reports show a category. -/
def label : Category → String
  | .operatorMisuse => "operator-misuse"
  | .typeCoercion => "type-coercion"
  | .resourceLimit => "resource-limit"
  | .internalConsistency => "internal-consistency"

end Category

/-- What went wrong. -/
inductive Kind where
  /-- An operator met an array. -/
  | arrayOperand
  /-- An arithmetic operator met a boolean. -/
  | booleanOperand
  /-- An array was used as an index. -/
  | arrayIndex
  /-- An arithmetic operator met a string that is not a number. -/
  | stringOperand
  /-- A library method refused its arguments. -/
  | libraryCallFailed
  /-- The operand stack was full. -/
  | stackOverflow
  /-- The call stack was full. -/
  | callOverflow
  /-- An instruction found too few operands. -/
  | stackUnderflow
  /-- A return had no call to return to. -/
  | returnWithoutCall
  /-- Control left the program. -/
  | invalidTarget
  /-- A library or one of its methods does not exist. -/
  | unknownMethod
deriving DecidableEq, Repr

namespace Kind

def all : List (String × Kind) := [
  ("CannotUseOperatorWithAnArray", .arrayOperand),
  ("CannotUseOperatorWithABoolean", .booleanOperand),
  ("CannotUseAnArrayAsAnIndexToAnotherArray", .arrayIndex),
  ("CannotUseOperatorWithAString", .stringOperand),
  ("LibraryCallFailed", .libraryCallFailed),
  ("OperandStackOverflow", .stackOverflow),
  ("CallStackOverflow", .callOverflow),
  ("OperandStackUnderflow", .stackUnderflow),
  ("ReturnWithoutCall", .returnWithoutCall),
  ("InvalidJumpTarget", .invalidTarget),
  ("UnknownLibraryMethod", .unknownMethod)]

def name : Kind → String
  | .arrayOperand => "CannotUseOperatorWithAnArray"
  | .booleanOperand => "CannotUseOperatorWithABoolean"
  | .arrayIndex => "CannotUseAnArrayAsAnIndexToAnotherArray"
  | .stringOperand => "CannotUseOperatorWithAString"
  | .libraryCallFailed => "LibraryCallFailed"
  | .stackOverflow => "OperandStackOverflow"
  | .callOverflow => "CallStackOverflow"
  | .stackUnderflow => "OperandStackUnderflow"
  | .returnWithoutCall => "ReturnWithoutCall"
  | .invalidTarget => "InvalidJumpTarget"
  | .unknownMethod => "UnknownLibraryMethod"

def category : Kind → Category
  | .arrayOperand | .booleanOperand | .arrayIndex => .operatorMisuse
  | .stringOperand | .libraryCallFailed => .typeCoercion
  | .stackOverflow | .callOverflow => .resourceLimit
  | .stackUnderflow | .returnWithoutCall | .invalidTarget | .unknownMethod => .internalConsistency

def template : Kind → String
  | .arrayOperand => "Cannot use the operator '" ++ slot 0 ++ "' with an array value"
  | .booleanOperand => "Cannot use the operator '" ++ slot 0 ++ "' with a boolean value"
  | .arrayIndex => "Cannot use an array as an index to access another array"
  | .stringOperand =>
    "Cannot use the operator '" ++ slot 0 ++ "' with a string value that is not a number"
  | .libraryCallFailed => "Call to '" ++ slot 0 ++ "' failed: " ++ slot 1
  | .stackOverflow => "Operand stack exceeded its limit of " ++ slot 0 ++ " values"
  | .callOverflow => "Subroutine calls nested deeper than the limit of " ++ slot 0
  | .stackUnderflow => "Instruction '" ++ slot 0 ++ "' found too few values on the operand stack"
  | .returnWithoutCall => "Return executed with no subroutine call in progress"
  | .invalidTarget =>
    "Control transfer to instruction " ++ slot 0 ++ ", which is outside the program"
  | .unknownMethod => "Library method '" ++ slot 0 ++ "' does not exist"

end Kind

end StackScript.Diagnostic
