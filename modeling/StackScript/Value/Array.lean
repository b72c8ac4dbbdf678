import StackScript.Value.Basic

/-!
# Operations on arrays

An array can be asked for a key, be written to and lose an entry, and so can the arrays inside it.
Going down into one of them makes it where it is missing, and in the place of anything else. Writing
and removing give back what was under the key before.
-/

namespace StackScript

/-- What can be done with an array. -/
inductive ArrayOperation where
  /-- Looks up a key. -/
  | get (key : String)
  /-- Asks whether a key is there. -/
  | contains (key : String)
  /-- Writes a value under a key. -/
  | insert (key : String) (v : Value)
  /-- Takes out the entry under a key. -/
  | remove (key : String)
  /-- Goes down into the array under a key and does something there. -/
  | child (key : String) (next : ArrayOperation)
  /-- Counts the entries. -/
  | count

/-- What an operation on an array gives back. -/
inductive ArrayAnswer where
  /-- The value under the key, if there is one. -/
  | value (v : Option Value)
  /-- Whether the key is there. -/
  | truth (b : Bool)
  /-- How many entries there are. -/
  | count (n : Nat)

namespace ArrayOperation

/-- What an operation gives back, and the entries that it leaves. -/
def perform : ArrayOperation → Entries Value → ArrayAnswer × Entries Value
  | get key, es => (.value (es.get? key), es)
  | contains key, es => (.truth (es.contains key), es)
  | insert key v, es =>
    let (old, rest) := es.exchange key v
    (.value old, rest)
  | remove key, es =>
    let (old, rest) := es.remove key
    (.value old, rest)
  | child key next, es =>
    let (answer, inner) := next.perform ((es.get? key).getD .empty).entries
    (answer, es.insert key (.array inner))
  | count, es => (.count es.length, es)

def after (op : ArrayOperation) (es : Entries Value) : Entries Value :=
  (op.perform es).2

/-- The entries that operations leave, done one after the other. -/
def afterAll (ops : List ArrayOperation) (es : Entries Value) : Entries Value :=
  ops.foldl (fun es op ↦ op.after es) es

/-- Goes down along a path of keys before the operation. -/
def along (path : List String) (op : ArrayOperation) : ArrayOperation :=
  path.foldr child op

end ArrayOperation

end StackScript
