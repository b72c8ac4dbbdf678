/-!
# Ordered entries

A finite map from strings that remembers the order in which its keys came. Writing to a key that is
there keeps its place; a new key goes to the end; removing one closes the gap.
-/

namespace StackScript

/-- Keys with their values, in order. -/
abbrev Entries (α : Type) := List (String × α)

namespace Entries

variable {α : Type}

def get? (es : Entries α) (key : String) : Option α :=
  es.lookup key

def contains (es : Entries α) (key : String) : Bool :=
  es.any (·.1 == key)

def keys (es : Entries α) : List String :=
  es.map (·.1)

/-- Writes a value: in place if the key is there, at the end otherwise. -/
def insert : Entries α → String → α → Entries α
  | [], key, value => [(key, value)]
  | (k, v) :: rest, key, value =>
    if k = key then (k, value) :: rest else (k, v) :: insert rest key value

/-- Writes a value and gives back the one that it replaces. -/
def exchange : Entries α → String → α → Option α × Entries α
  | [], key, value => (none, [(key, value)])
  | (k, v) :: rest, key, value =>
    if k = key then
      (some v, (k, value) :: rest)
    else
      let (old, rest) := exchange rest key value
      (old, (k, v) :: rest)

/-- Takes out the entry under a key and gives back its value; the entries behind it move up. -/
def remove : Entries α → String → Option α × Entries α
  | [], _ => (none, [])
  | (k, v) :: rest, key =>
    if k = key then
      (some v, rest)
    else
      let (old, rest) := remove rest key
      (old, (k, v) :: rest)

/-- Writes the pairs one after the other. -/
def ofPairs (pairs : List (String × α)) : Entries α :=
  pairs.foldl (fun es p ↦ insert es p.1 p.2) []

end Entries

end StackScript
