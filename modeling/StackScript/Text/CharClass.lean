/-!
# Classes of characters

A class is the increasing list of the code points at which membership changes: the first edge
enters the class, the second leaves it, and so on. A character belongs to the class when an odd
number of edges lies at or below it.
-/

namespace StackScript.Text

/-- A set of characters, given by its edges. -/
structure CharClass where
  /-- The code points at which membership changes, in increasing order. -/
  edges : List Nat

def CharClass.contains (s : CharClass) (c : Char) : Bool :=
  s.edges.foldl (fun inside edge ↦ if edge ≤ c.toNat then !inside else inside) false

end StackScript.Text
