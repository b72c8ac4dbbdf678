import StackScript.Library.Arrays
import StackScript.Library.Math
import StackScript.Library.Text

/-!
# Built-in libraries
-/

namespace StackScript.Library

/-- The libraries that every program can call, in the order in which they are registered. -/
def builtin : List Library :=
  [math, text, array]

end StackScript.Library

namespace StackScript.Registry

def builtin : Registry :=
  registerAll [] Library.builtin

end StackScript.Registry
