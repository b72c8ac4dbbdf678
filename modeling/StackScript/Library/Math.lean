import StackScript.Library.Basic
import StackScript.Number.Arithmetic

/-!
# The Math library

Functions of one or two numbers. Strings that read as numbers are taken as those numbers.
-/

namespace StackScript

/-- A function of one or two numbers. -/
inductive NumberFunction where
  /-- A function of one number. -/
  | one (f : Float → Float)
  /-- A function of two numbers. -/
  | two (f : Float → Float → Float)

def NumberFunction.method : NumberFunction → Method
  | one f => .onNumber f
  | two f => .onNumbers f

namespace Library

/-- The functions by the names of their methods. -/
def mathFunctions : List (String × NumberFunction) := [
  ("Abs", .one Float.abs),
  ("Ceiling", .one Float.ceil),
  ("Floor", .one Float.floor),
  ("Max", .two Number.larger),
  ("Min", .two Number.smaller),
  ("Power", .two Float.pow),
  ("SquareRoot", .one Float.sqrt),
  ("Remainder", .two Number.remainder)]

def math : Library :=
  ofMethods "Math" (mathFunctions.map fun (name, f) ↦ (name, f.method))

end Library

end StackScript
