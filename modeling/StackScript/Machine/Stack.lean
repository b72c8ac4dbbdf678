/-!
# Stacks

A stack is the list of its items, the top first, together with their number, so that asking for the
depth costs nothing. The number is determined by the items: two stacks with the same items are
equal.
-/

namespace StackScript

/-- A stack that knows its depth. -/
structure Stack (α : Type) where
  /-- The items, the top first. -/
  items : List α
  /-- How many items there are. -/
  depth : Nat
  /-- The depth is the number of items. -/
  depth_eq : depth = items.length
deriving DecidableEq, Repr

namespace Stack

variable {α : Type}

/-- The stack with the given items, the top first. -/
def ofItems (items : List α) : Stack α :=
  ⟨items, items.length, rfl⟩

def empty : Stack α :=
  ofItems []

instance : Inhabited (Stack α) := ⟨empty⟩

def push (s : Stack α) (a : α) : Stack α :=
  ⟨a :: s.items, s.depth + 1, by simp [s.depth_eq]⟩

def top? (s : Stack α) : Option α :=
  s.items.head?

/-- The item on top and the stack below it. -/
def pop? : Stack α → Option (α × Stack α)
  | ⟨[], _, _⟩ => none
  | ⟨a :: rest, n, h⟩ => some (a, ⟨rest, n - 1, by simp [h]⟩)

/-- The top `n` items, the top one last, and the stack below them. -/
def popMany? (s : Stack α) (n : Nat) : Option (List α × Stack α) :=
  if n ≤ s.depth then
    some ((s.items.take n).reverse, ⟨s.items.drop n, s.depth - n, by simp [s.depth_eq]⟩)
  else
    none

/-- The items, the top one last. -/
def toList (s : Stack α) : List α :=
  s.items.reverse

@[ext] theorem ext {s t : Stack α} (h : s.items = t.items) : s = t := by
  obtain ⟨items, depth, rfl⟩ := s
  obtain ⟨items', depth', rfl⟩ := t
  cases h
  rfl

@[simp] theorem items_empty : (empty : Stack α).items = [] := rfl

@[simp] theorem items_push (s : Stack α) (a : α) : (s.push a).items = a :: s.items := rfl

@[simp] theorem depth_push (s : Stack α) (a : α) : (s.push a).depth = s.depth + 1 := rfl

@[simp] theorem pop?_push (s : Stack α) (a : α) : (s.push a).pop? = some (a, s) := by
  simp [push, pop?]

end Stack

end StackScript
