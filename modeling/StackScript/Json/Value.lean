import StackScript.Json.Shape
import StackScript.Json.Writer
import StackScript.Value.Basic

/-!
# Values as JSON

A value is a variant whose name is its sort, and an array is an object of values. A key that comes
twice keeps its first place and its last value.
-/

namespace StackScript.Json

def number (n : Float) : String :=
  numberStyle.text n

mutual

def value : Value → String
  | .number n => carrying "Number" (number n)
  | .string s => carrying "String" (quote s)
  | .boolean b => carrying "Boolean" (boolean b)
  | .array es => carrying "Array" ("\x7b" ++ ",".intercalate (valueMembers es) ++ "\x7d")

/-- The members of an array as JSON. -/
def valueMembers : List (String × Value) → List String
  | [] => []
  | (key, v) :: rest => member key (value v) :: valueMembers rest

end

def entries (es : Entries Value) : String :=
  "\x7b" ++ ",".intercalate (valueMembers es) ++ "\x7d"

def valueKind (k : Value.Kind) : String :=
  quote k.name

namespace Reader

/-- The cases of a value, given how its array is read. -/
def valueCases (array : Reader (List (String × Value))) : List (String × Case Value) := [
  ("Number", .carrying "newtype variant" do return .number (← float)),
  ("String", .carrying "newtype variant" do return .string (← text)),
  ("Boolean", .carrying "newtype variant" do return .boolean (← boolean)),
  ("Array", .carrying "newtype variant" do return .array (Entries.ofPairs (← array)))]

mutual

def value : Nat → Reader Value
  | 0 => variant 0 (valueCases (next .recursionLimit))
  | depth + 1 => variant (depth + 1) (valueCases (pairs depth))

/-- Reads keys and values. -/
def pairs : Nat → Reader (List (String × Value))
  | 0 => map 0 (next .recursionLimit)
  | depth + 1 => map (depth + 1) (value depth)

end

def entries (depth : Nat) : Reader (Entries Value) := do
  return Entries.ofPairs (← pairs depth)

def valueKind (depth : Nat) : Reader Value.Kind :=
  name depth Value.Kind.all

end Reader

end StackScript.Json
