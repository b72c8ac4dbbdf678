/-!
# Limits of a run

The memory of the machine itself is not modelled: a capacity that could not be allocated is taken
like any other.
-/

namespace StackScript

/-- How much a run may use. -/
structure Limits where
  /-- How many operands room is made for at the start. -/
  initialCapacity : Nat := 256
  /-- How many values the operand stack holds at most. -/
  stackSize : Nat := 1024
  /-- How many calls may be open at the same time. -/
  callDepth : Nat := 256
deriving DecidableEq, Repr, Inhabited

end StackScript
