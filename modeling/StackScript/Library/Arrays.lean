import StackScript.Library.Basic

/-!
# The Array library

Functions of arrays. A value that is no array counts as an empty one, and an index counts as its
text.
-/

namespace StackScript.Library

def getItemCount : Method :=
  .unary fun a ↦ .ok (some (.number (Float.ofNat a.entries.length)))

def containsIndex : Method :=
  .binary fun a key ↦ .ok (some (.boolean (a.entries.contains key.text)))

/-- Keys under the numbers from `first` on. -/
def numbered (first : Nat) : List String → Entries Value
  | [] => []
  | key :: rest => (toString first, .string key) :: numbered (first + 1) rest

/-- The keys of the array under the numbers from one on. -/
def getAllIndices : Method :=
  .unary fun a ↦ .ok (some (.array (Entries.ofPairs (numbered 1 a.entries.keys))))

/-- The array without the entry under the index. -/
def removeValue : Method :=
  .binary fun a key ↦ .ok (some (.array (a.entries.remove key.text).2))

def array : Library := ofMethods "Array" [
  ("GetItemCount", getItemCount),
  ("ContainsIndex", containsIndex),
  ("GetAllIndices", getAllIndices),
  ("RemoveValue", removeValue)]

end StackScript.Library
