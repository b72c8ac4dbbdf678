import StackScript.Json.Quoted

/-!
# Writing JSON texts

Lists, objects and variants without white space, from members that are JSON texts already.
-/

namespace StackScript.Json

def list (elements : List String) : String :=
  "[" ++ ",".intercalate elements ++ "]"

/-- A key with its JSON text. -/
def member (key value : String) : String :=
  quote key ++ ":" ++ value

/-- An object of JSON texts under their keys. -/
def object (members : List (String × String)) : String :=
  "\x7b" ++ ",".intercalate (members.map fun (k, v) ↦ member k v) ++ "\x7d"

/-- A case of a variant with the JSON text that belongs to it. -/
def carrying (name value : String) : String :=
  object [(name, value)]

def boolean (b : Bool) : String :=
  if b then "true" else "false"

/-- A JSON text, or `null`. -/
def optional (value : Option String) : String :=
  value.getD "null"

end StackScript.Json
