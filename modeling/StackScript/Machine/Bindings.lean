import StackScript.Value.Basic

/-!
# Variable bindings

The variables of a run, in order of their names, each once. A variable holds a value, and an element
of a variable is what lies under a path of keys in it. Whatever was never stored loads as the empty
string.
-/

namespace StackScript

/-- Variables and their values, in order of their names. -/
structure Bindings where
  /-- The variables with their values. -/
  toList : List (String × Value) := []
deriving Inhabited

namespace Bindings

/-- Writes a pair into a list that is in order of its keys. -/
def insertSorted (name : String) (v : Value) : List (String × Value) → List (String × Value)
  | [] => [(name, v)]
  | (x, w) :: rest =>
    if name < x then (name, v) :: (x, w) :: rest
    else if name = x then (name, v) :: rest
    else (x, w) :: insertSorted name v rest

def get? (b : Bindings) (name : String) : Option Value :=
  b.toList.lookup name

def insert (b : Bindings) (name : String) (v : Value) : Bindings :=
  ⟨insertSorted name v b.toList⟩

def size (b : Bindings) : Nat :=
  b.toList.length

/-- The value under a path of keys in a variable. -/
def load (b : Bindings) (name : String) (path : List String) : Value :=
  ((b.get? name).bind (·.at? path)).getD .empty

/-- Stores a value under a path of keys in a variable. Every level on the way becomes an array if it
is none. -/
def store (b : Bindings) (name : String) (path : List String) (v : Value) : Bindings :=
  b.insert name (((b.get? name).getD .empty).modifyAt (fun _ ↦ v) path)

end Bindings

end StackScript
