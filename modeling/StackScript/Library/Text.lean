import StackScript.Library.Basic
import StackScript.Text.Case

/-!
# The Text library

Functions of texts. Every argument counts as its text, whatever sort of value it is.
-/

namespace StackScript.Library

def append : Method :=
  .binary fun a b ↦ .ok (some (.string (a.text ++ b.text)))

def getLength : Method :=
  .unary fun a ↦ .ok (some (.number (Float.ofNat a.text.length)))

/-- The text with each of its characters in upper case. -/
def convertToUpperCase : Method :=
  .unary fun a ↦ .ok (some (.string (Text.upper a.text)))

def convertToLowerCase : Method :=
  .unary fun a ↦ .ok (some (.string (Text.lower a.text)))

def text : Library := ofMethods "Text" [
  ("Append", append),
  ("GetLength", getLength),
  ("ConvertToUpperCase", convertToUpperCase),
  ("ConvertToLowerCase", convertToLowerCase)]

end StackScript.Library
