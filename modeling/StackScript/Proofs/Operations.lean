import Mathlib.Data.Nat.Notation
import StackScript.Machine.Step

/-!
# What one operation can do

`Machine.exec` is a program in the failure monad. Here it is taken apart once: `Machine.Effect` lists
the states in which a successful operation can leave the machine, `Machine.exec_effect` says that
there are no others, and `Machine.exec_fault` says in which states a failed one can leave it.
Everything that holds of whole runs is derived from these two and never opens `exec` again.

## Operands

All operations take their operands from the top of the stack, so what is left is always the old
stack below some number of items. `Stack.drop` is that stack, and `Op.taken` the number that an
operation takes when it succeeds. A failed operation may have taken fewer: a binary operator with
one operand has already lost it when it looks for the second.
-/

namespace StackScript

/-! ## Sequencing -/

section Sequencing

variable {ε α β : Type} {x : Except ε α} {f : α → Except ε β}

theorem bind_eq_ok {b : β} : (x >>= f) = .ok b ↔ ∃ a, x = .ok a ∧ f a = .ok b := by
  cases x <;> simp [bind, Except.bind]

theorem bind_eq_error {e : ε} :
    (x >>= f) = .error e ↔ x = .error e ∨ ∃ a, x = .ok a ∧ f a = .error e := by
  cases x <;> simp [bind, Except.bind]

theorem pure_eq_ok {a b : α} : (pure a : Except ε α) = .ok b ↔ b = a := by
  rw [eq_comm (a := b)]
  exact ⟨Except.ok.inj, congrArg _⟩

theorem pure_ne_error {a : α} {e : ε} : (pure a : Except ε α) ≠ .error e := nofun

end Sequencing

/-! ## Stacks -/

namespace Stack

variable {α : Type} {s t : Stack α} {a : α} {n : ℕ}

/-- The stack below its top `n` items. -/
def drop (s : Stack α) (n : ℕ) : Stack α :=
  ofItems (s.items.drop n)

@[simp] theorem items_drop (s : Stack α) (n : ℕ) : (s.drop n).items = s.items.drop n := rfl

@[simp] theorem depth_drop (s : Stack α) (n : ℕ) : (s.drop n).depth = s.depth - n := by
  rw [(s.drop n).depth_eq, items_drop, List.length_drop, s.depth_eq]

@[simp] theorem drop_zero (s : Stack α) : s.drop 0 = s := ext rfl

@[simp] theorem drop_drop (s : Stack α) (n k : ℕ) : (s.drop n).drop k = s.drop (n + k) := by
  apply ext
  rw [items_drop, items_drop, items_drop, List.drop_drop]

@[simp] theorem drop_push (s : Stack α) (a : α) : (s.push a).drop 1 = s := ext rfl

theorem toList_drop_prefix (s : Stack α) (n : ℕ) : (s.drop n).toList <+: s.toList := by
  rw [toList, toList, items_drop, List.reverse_prefix]
  exact List.drop_suffix n s.items

theorem pop?_eq_some_iff : s.pop? = some (a, t) ↔ s = t.push a := by
  constructor
  · intro h
    match s, h with
    | ⟨_ :: _, _, _⟩, h =>
      obtain ⟨rfl, rfl⟩ := Prod.mk.inj (Option.some.inj h)
      exact ext rfl
  · rintro rfl
    exact pop?_push t a

theorem pop?_eq_none_iff : s.pop? = none ↔ s.depth = 0 := by
  rw [s.depth_eq, List.length_eq_zero_iff]
  match s with
  | ⟨[], _, _⟩ => simp [pop?]
  | ⟨_ :: _, _, _⟩ => simp [pop?]

theorem popMany?_eq_some_iff {as : List α} : s.popMany? n = some (as, t) ↔
    n ≤ s.depth ∧ as = (s.items.take n).reverse ∧ t = s.drop n := by
  have hrest : ∀ h, (⟨s.items.drop n, s.depth - n, h⟩ : Stack α) = s.drop n := fun _ ↦ ext rfl
  by_cases hn : n ≤ s.depth
  · rw [popMany?, if_pos hn, hrest, Option.some_inj, Prod.mk.injEq, eq_comm (a := as),
      eq_comm (a := t)]
    exact ⟨fun h ↦ ⟨hn, h⟩, fun h ↦ h.2⟩
  · rw [popMany?, if_neg hn]
    exact iff_of_false (Option.some_ne_none _).symm fun h ↦ hn h.1

theorem popMany?_eq_none_iff : s.popMany? n = none ↔ s.depth < n := by
  by_cases hn : n ≤ s.depth
  · rw [popMany?, if_pos hn]
    exact iff_of_false (Option.some_ne_none _) (Nat.not_lt.2 hn)
  · rw [popMany?, if_neg hn]
    exact iff_of_true rfl (Nat.not_le.1 hn)

end Stack

/-! ## Operands -/

namespace State

variable {limits : Limits} {op : Op} {s t : State} {f : Fault} {v : Value} {n : ℕ}

/-- The state once the program counter has moved past the fetched instruction. -/
def passed (s : State) : State :=
  { s with pc := s.pc + 1 }

/-- The state with its top `n` operands taken away. -/
def took (s : State) (n : ℕ) : State :=
  { s with stack := s.stack.drop n }

@[simp] theorem stack_took (s : State) (n : ℕ) : (s.took n).stack = s.stack.drop n := rfl

@[simp] theorem took_zero (s : State) : s.took 0 = s := by
  rw [took, Stack.drop_zero]

theorem exists_eq_took (s : State) : ∃ k, s = s.took k := ⟨0, (took_zero s).symm⟩

@[simp] theorem took_took (s : State) (n k : ℕ) : (s.took n).took k = s.took (n + k) := by
  rw [took, took, took, Stack.drop_drop]

theorem push_eq_ok : s.push limits v = .ok t ↔
    s.stack.depth < limits.stackSize ∧ t = { s with stack := s.stack.push v } := by
  rw [push]
  split
  · exact ⟨nofun, fun h ↦ absurd h.1 (by omega)⟩
  · rw [Except.ok.injEq, eq_comm]
    exact ⟨fun h ↦ ⟨by omega, h⟩, fun h ↦ h.2⟩

theorem push_eq_error : s.push limits v = .error f ↔
    limits.stackSize ≤ s.stack.depth ∧ f = ⟨.stackOverflow limits.stackSize, s⟩ := by
  rw [push]
  split
  · rename_i hfull
    rw [fail, Except.error.injEq, eq_comm]
    exact ⟨fun h ↦ ⟨hfull, h⟩, fun h ↦ h.2⟩
  · exact ⟨nofun, fun h ↦ absurd h.1 (by omega)⟩

theorem pop_eq_ok : s.pop op = .ok (v, t) ↔ s.stack.top? = some v ∧ t = s.took 1 := by
  rw [pop]
  split
  · rename_i w rest hpop
    obtain hstack := Stack.pop?_eq_some_iff.1 hpop
    rw [took, hstack, Stack.drop_push, Except.ok.injEq, Prod.mk.injEq, eq_comm (b := t)]
    exact and_congr_left' Option.some_inj.symm
  · rename_i hpop
    rw [Stack.pop?_eq_none_iff, s.stack.depth_eq, List.length_eq_zero_iff] at hpop
    rw [Stack.top?, hpop]
    exact ⟨nofun, nofun⟩

theorem pop_eq_error : s.pop op = .error f ↔
    s.stack.depth = 0 ∧ f = ⟨.stackUnderflow op.name, s⟩ := by
  rw [← Stack.pop?_eq_none_iff, pop]
  split
  · rename_i hpop
    rw [hpop]
    exact ⟨nofun, nofun⟩
  · rename_i hpop
    rw [fail, Except.error.injEq, eq_comm]
    exact ⟨fun h ↦ ⟨hpop, h⟩, fun h ↦ h.2⟩

theorem popTwo_eq_ok {lhs rhs : Value} : s.popTwo op = .ok (lhs, rhs, t) ↔
    s.stack.top? = some rhs ∧ (s.stack.drop 1).top? = some lhs ∧ t = s.took 2 := by
  rw [popTwo, bind_eq_ok]
  constructor
  · rintro ⟨⟨v, u⟩, hright, h⟩
    obtain ⟨hv, rfl⟩ := pop_eq_ok.1 hright
    obtain ⟨⟨w, u⟩, hleft, h⟩ := bind_eq_ok.1 h
    obtain ⟨hw, rfl⟩ := pop_eq_ok.1 hleft
    obtain ⟨rfl, rfl, rfl⟩ := pure_eq_ok.1 h
    exact ⟨hv, hw, took_took s 1 1⟩
  · rintro ⟨hrhs, hlhs, rfl⟩
    refine ⟨(rhs, s.took 1), pop_eq_ok.2 ⟨hrhs, rfl⟩, bind_eq_ok.2 ⟨(lhs, s.took 2), ?_, rfl⟩⟩
    exact pop_eq_ok.2 ⟨hlhs, (took_took s 1 1).symm⟩

/-- A failed pair of operands leaves nothing, whether none or one was there. -/
theorem popTwo_eq_error (h : s.popTwo op = .error f) :
    f = ⟨.stackUnderflow op.name, s.took 1⟩ := by
  rcases bind_eq_error.1 h with h | ⟨⟨v, u⟩, hv, h⟩
  · obtain ⟨hempty, rfl⟩ := pop_eq_error.1 h
    rw [s.stack.depth_eq, List.length_eq_zero_iff] at hempty
    have hstack : s.stack.drop 1 = s.stack := by
      apply Stack.ext
      rw [Stack.items_drop, hempty, List.drop_nil]
    rw [took, hstack]
  · obtain ⟨-, rfl⟩ := pop_eq_ok.1 hv
    rcases bind_eq_error.1 h with h | ⟨⟨w, u⟩, -, h⟩
    · exact (pop_eq_error.1 h).2
    · exact absurd h pure_ne_error

theorem popMany_eq_ok {vs : List Value} : s.popMany op n = .ok (vs, t) ↔
    n ≤ s.stack.depth ∧ vs = (s.stack.items.take n).reverse ∧ t = s.took n := by
  rw [popMany]
  split
  · rename_i ws rest hpop
    obtain ⟨hn, rfl, rfl⟩ := Stack.popMany?_eq_some_iff.1 hpop
    rw [Except.ok.injEq, Prod.mk.injEq, eq_comm (b := vs), eq_comm (b := t)]
    exact ⟨fun h ↦ ⟨hn, h⟩, fun h ↦ h.2⟩
  · rename_i hpop
    rw [Stack.popMany?_eq_none_iff] at hpop
    exact ⟨nofun, fun h ↦ absurd h.1 (by omega)⟩

theorem popMany_eq_error : s.popMany op n = .error f ↔
    s.stack.depth < n ∧ f = ⟨.stackUnderflow op.name, s⟩ := by
  rw [← Stack.popMany?_eq_none_iff, popMany]
  split
  · rename_i hpop
    rw [hpop]
    exact ⟨nofun, nofun⟩
  · rename_i hpop
    rw [fail, Except.error.injEq, eq_comm]
    exact ⟨fun h ↦ ⟨hpop, h⟩, fun h ↦ h.2⟩

theorem jump_eq_ok {length target : ℕ} : s.jump length target = .ok t ↔
    target ≤ length ∧ t = { s with pc := target } := by
  rw [jump]
  split
  · exact ⟨nofun, fun h ↦ absurd h.1 (by omega)⟩
  · rw [Except.ok.injEq, eq_comm]
    exact ⟨fun h ↦ ⟨by omega, h⟩, fun h ↦ h.2⟩

end State

/-! ## Successful operations -/

namespace Op

/-- How many operands an operation takes when it succeeds. -/
def taken : Op → ℕ
  | pop | storeVariable _ | negate | toBoolean | jumpIfTrue _ | jumpIfFalse _ => 1
  | add | subtract | multiply | divide | compareEqual | compareNotEqual | compareLessThan
  | compareGreaterThan | compareLessThanOrEqual | compareGreaterThanOrEqual => 2
  | loadElement _ n | callLibrary _ _ n => n
  | storeElement _ n => 1 + n
  | _ => 0

/-- The target of a jump, taken always or on a condition. Calls are not jumps: they come back. -/
def jump? : Op → Option ℕ
  | jump t | jumpIfTrue t | jumpIfFalse t => some t
  | _ => none

end Op

namespace Machine

variable {m : Machine} {op : Op} {s t : State} {f : Fault} {v : Value} {n : ℕ}

/-- The states in which a successful operation can leave the machine. -/
inductive Effect (m : Machine) (op : Op) (s : State) : State → Prop
  /-- Operands were taken, and that was all. -/
  | take : Effect m op s (s.took op.taken)
  /-- A result took the place of the operands. -/
  | push (v : Value) (room : (s.took op.taken).stack.depth < m.limits.stackSize) :
      Effect m op s { s with stack := (s.took op.taken).stack.push v }
  /-- The operands went into a variable. -/
  | store (b : Bindings) : Effect m op s { s.took op.taken with bindings := b }
  /-- Control went to the target of a jump. -/
  | jump (target : ℕ) (named : op.jump? = some target) (inside : target ≤ m.program.length) :
      Effect m op s { s.took op.taken with pc := target }
  /-- Control went to the target of a call, and the place after the call was remembered. -/
  | call (target : ℕ) (named : op = .call target) (inside : target ≤ m.program.length)
      (room : s.calls.depth < m.limits.callDepth) :
      Effect m op s { s with pc := target, calls := s.calls.push s.pc }
  /-- Control went back to the place remembered last. -/
  | ret (place : ℕ) (rest : Stack ℕ) (named : op = .ret) (calls : s.calls = rest.push place) :
      Effect m op s { s with pc := place, calls := rest }
  /-- The run was brought to its end. -/
  | halt (named : op = .halt) : Effect m op s s.complete

/-- The last thing most operations do is to push their result onto what they left. -/
theorem Effect.of_push (h : (s.took op.taken).push m.limits v = .ok t) : m.Effect op s t := by
  obtain ⟨hroom, rfl⟩ := State.push_eq_ok.1 h
  exact .push v hroom

theorem arithmetic_effect {operator : Operator} (htaken : op.taken = 2)
    (h : m.arithmetic op operator s = .ok t) : m.Effect op s t := by
  obtain ⟨⟨lhs, rhs, u⟩, hpop, h⟩ := bind_eq_ok.1 h
  obtain ⟨-, -, rfl⟩ := State.popTwo_eq_ok.1 hpop
  obtain ⟨w, -, h⟩ := bind_eq_ok.1 h
  rw [← htaken] at h
  exact .of_push h

theorem compare_effect {comparison : Comparison} (htaken : op.taken = 2)
    (h : m.compare op comparison s = .ok t) : m.Effect op s t := by
  obtain ⟨⟨lhs, rhs, u⟩, hpop, h⟩ := bind_eq_ok.1 h
  obtain ⟨-, -, rfl⟩ := State.popTwo_eq_ok.1 hpop
  rw [← htaken] at h
  exact .of_push h

theorem branch_effect {wanted : Bool} {target : ℕ} (htaken : op.taken = 1)
    (hjump : op.jump? = some target) (h : m.branch op wanted target s = .ok t) :
    m.Effect op s t := by
  obtain ⟨⟨condition, u⟩, hpop, h⟩ := bind_eq_ok.1 h
  obtain ⟨-, rfl⟩ := State.pop_eq_ok.1 hpop
  rw [← htaken] at h
  dsimp only at h
  split at h
  · obtain ⟨hinside, rfl⟩ := State.jump_eq_ok.1 h
    exact .jump target hjump hinside
  · rw [pure_eq_ok.1 h]
    exact .take

theorem call_eq_ok {target : ℕ} : m.call target s = .ok t ↔
    s.calls.depth < m.limits.callDepth ∧ target ≤ m.program.length ∧
      t = { s with pc := target, calls := s.calls.push s.pc } := by
  rw [call]
  split
  · exact ⟨nofun, fun h ↦ absurd h.1 (by omega)⟩
  · rename_i hroom
    rw [bind_eq_ok]
    constructor
    · rintro ⟨u, hjump, h⟩
      obtain ⟨hinside, rfl⟩ := State.jump_eq_ok.1 hjump
      exact ⟨by omega, hinside, pure_eq_ok.1 h⟩
    · rintro ⟨-, hinside, rfl⟩
      exact ⟨_, State.jump_eq_ok.2 ⟨hinside, rfl⟩, rfl⟩

theorem call_effect {target : ℕ} (h : m.call target s = .ok t) : m.Effect (.call target) s t := by
  obtain ⟨hroom, hinside, rfl⟩ := call_eq_ok.1 h
  exact .call target rfl hinside hroom

theorem ret_eq_ok : ret s = .ok t ↔
    ∃ place rest, s.calls = rest.push place ∧ t = { s with pc := place, calls := rest } := by
  rw [ret]
  constructor
  · intro h
    split at h
    · rename_i place rest hpop
      exact ⟨place, rest, Stack.pop?_eq_some_iff.1 hpop, (Except.ok.inj h).symm⟩
    · cases h
  · rintro ⟨place, rest, hcalls, rfl⟩
    rw [Stack.pop?_eq_some_iff.2 hcalls]

theorem ret_eq_error : ret s = .error f ↔
    s.calls.depth = 0 ∧ f = ⟨.returnWithoutCall, s⟩ := by
  rw [← Stack.pop?_eq_none_iff, ret]
  split
  · rename_i hpop
    rw [hpop]
    exact ⟨nofun, nofun⟩
  · rename_i hpop
    rw [State.fail, Except.error.injEq, eq_comm]
    exact ⟨fun h ↦ ⟨hpop, h⟩, fun h ↦ h.2⟩

theorem ret_effect (h : ret s = .ok t) : m.Effect .ret s t := by
  obtain ⟨place, rest, hcalls, rfl⟩ := ret_eq_ok.1 h
  exact .ret place rest rfl hcalls

theorem callLibrary_effect {library method : String}
    (h : m.callLibrary (.callLibrary library method n) library method n s = .ok t) :
    m.Effect (.callLibrary library method n) s t := by
  obtain ⟨⟨arguments, u⟩, hpop, h⟩ := bind_eq_ok.1 h
  obtain ⟨-, -, rfl⟩ := State.popMany_eq_ok.1 hpop
  dsimp only at h
  split at h
  · cases h
  · split at h
    · exact .of_push h
    · rw [pure_eq_ok.1 h]
      exact .take
    · cases h
    · cases h

/-- **Inversion of a successful operation.** The cases follow the operations; each group of alike
operations has its lemma above. -/
theorem exec_effect (h : m.exec op s = .ok t) : m.Effect op s t := by
  cases op with
  | pushNumber | pushString | pushBoolean | pushArray | loadVariable =>
    rw [← State.took_zero s] at h
    exact .of_push h
  | pop =>
    obtain ⟨⟨v, u⟩, hpop, h⟩ := bind_eq_ok.1 h
    obtain ⟨-, rfl⟩ := State.pop_eq_ok.1 hpop
    rw [pure_eq_ok.1 h]
    exact .take
  | duplicate =>
    rw [exec] at h
    split at h
    · rw [← State.took_zero s] at h
      exact .of_push h
    · cases h
  | storeVariable x =>
    obtain ⟨⟨v, u⟩, hpop, h⟩ := bind_eq_ok.1 h
    obtain ⟨-, rfl⟩ := State.pop_eq_ok.1 hpop
    rw [pure_eq_ok.1 h]
    exact .store _
  | loadElement x n =>
    obtain ⟨⟨indices, u⟩, hpop, h⟩ := bind_eq_ok.1 h
    obtain ⟨-, -, rfl⟩ := State.popMany_eq_ok.1 hpop
    obtain ⟨keys, -, h⟩ := bind_eq_ok.1 h
    exact .of_push h
  | storeElement x n =>
    obtain ⟨⟨v, u⟩, hpop, h⟩ := bind_eq_ok.1 h
    obtain ⟨-, rfl⟩ := State.pop_eq_ok.1 hpop
    obtain ⟨⟨indices, u⟩, hpops, h⟩ := bind_eq_ok.1 h
    obtain ⟨-, -, rfl⟩ := State.popMany_eq_ok.1 hpops
    obtain ⟨keys, -, h⟩ := bind_eq_ok.1 h
    rw [pure_eq_ok.1 h, State.took_took]
    exact .store _
  | add | subtract | multiply | divide => exact arithmetic_effect rfl h
  | negate =>
    obtain ⟨⟨v, u⟩, hpop, h⟩ := bind_eq_ok.1 h
    obtain ⟨-, rfl⟩ := State.pop_eq_ok.1 hpop
    obtain ⟨w, -, h⟩ := bind_eq_ok.1 h
    exact .of_push h
  | compareEqual | compareNotEqual | compareLessThan | compareGreaterThan
  | compareLessThanOrEqual | compareGreaterThanOrEqual => exact compare_effect rfl h
  | toBoolean =>
    obtain ⟨⟨v, u⟩, hpop, h⟩ := bind_eq_ok.1 h
    obtain ⟨-, rfl⟩ := State.pop_eq_ok.1 hpop
    exact .of_push h
  | jump target =>
    rw [← State.took_zero s] at h
    obtain ⟨hinside, rfl⟩ := State.jump_eq_ok.1 h
    exact .jump target rfl hinside
  | jumpIfTrue target | jumpIfFalse target => exact branch_effect rfl rfl h
  | call target => exact call_effect h
  | ret => exact ret_effect h
  | callLibrary library method n => exact callLibrary_effect h
  | halt =>
    rw [← Except.ok.inj h]
    exact .halt rfl

end Machine

/-! ## Failed operations

A fault carries the state that the operation left, and an operation could have written to all of it
before it failed. That it has taken operands and written nothing is closed under sequencing, so each
operation is followed along its own text, down every path on which it can fail. -/

/-- Whenever the computation fails, it leaves the state `s` with operands taken off the top. -/
def LeavesBottom {α : Type} (s : State) (x : Except Fault α) : Prop :=
  ∀ f, x = .error f → ∃ k, f.state = s.took k

namespace LeavesBottom

variable {α β : Type} {op : Op} {s : State} {n : ℕ}

theorem ok (a : α) : LeavesBottom s (.ok a) := nofun

theorem fail (s : State) (c : Failure) : LeavesBottom s (s.fail c : Except Fault α) := by
  rintro f h
  rw [← Except.error.inj h]
  exact s.exists_eq_took

/-- A bottom part of a bottom part is one. -/
theorem of_took {x : Except Fault α} (h : LeavesBottom (s.took n) x) : LeavesBottom s x := by
  intro f hf
  obtain ⟨k, hk⟩ := h f hf
  exact ⟨n + k, by rw [hk, State.took_took]⟩

theorem bind {x : Except Fault α} {g : α → Except Fault β} (hx : LeavesBottom s x)
    (hg : ∀ a, x = .ok a → LeavesBottom s (g a)) : LeavesBottom s (x >>= g) := by
  intro f hf
  rcases bind_eq_error.1 hf with hf | ⟨a, ha, hf⟩
  · exact hx f hf
  · exact hg a ha f hf

theorem check (s : State) (x : Except Failure α) : LeavesBottom s (s.check x) := by
  cases x with
  | ok a => exact .ok a
  | error c => exact .fail s c

theorem push (limits : Limits) (s : State) (v : Value) : LeavesBottom s (s.push limits v) := by
  rw [State.push]
  split
  · exact .fail s _
  · exact .ok _

theorem jump (length target : ℕ) (s : State) : LeavesBottom s (s.jump length target) := by
  rw [State.jump]
  split
  · exact .fail s _
  · exact .ok _

theorem pop_bind {g : Value × State → Except Fault β}
    (hg : ∀ v, LeavesBottom (s.took 1) (g (v, s.took 1))) : LeavesBottom s (s.pop op >>= g) := by
  refine .bind ?_ fun ⟨v, t⟩ hpop ↦ ?_
  · intro f hf
    rw [(State.pop_eq_error.1 hf).2]
    exact s.exists_eq_took
  · obtain ⟨-, rfl⟩ := State.pop_eq_ok.1 hpop
    exact .of_took (hg v)

theorem popTwo_bind {g : Value × Value × State → Except Fault β}
    (hg : ∀ lhs rhs, LeavesBottom (s.took 2) (g (lhs, rhs, s.took 2))) :
    LeavesBottom s (s.popTwo op >>= g) := by
  refine .bind ?_ fun ⟨lhs, rhs, t⟩ hpop ↦ ?_
  · intro f hf
    rw [State.popTwo_eq_error hf]
    exact ⟨1, rfl⟩
  · obtain ⟨-, -, rfl⟩ := State.popTwo_eq_ok.1 hpop
    exact .of_took (hg lhs rhs)

theorem popMany_bind {g : List Value × State → Except Fault β}
    (hg : ∀ vs, LeavesBottom (s.took n) (g (vs, s.took n))) :
    LeavesBottom s (s.popMany op n >>= g) := by
  refine .bind ?_ fun ⟨vs, t⟩ hpop ↦ ?_
  · intro f hf
    rw [(State.popMany_eq_error.1 hf).2]
    exact s.exists_eq_took
  · obtain ⟨-, -, rfl⟩ := State.popMany_eq_ok.1 hpop
    exact .of_took (hg vs)

end LeavesBottom

namespace Machine

variable {m : Machine} {op : Op} {s : State} {f : Fault}

theorem leavesBottom_arithmetic (m : Machine) (op : Op) (operator : Operator) (s : State) :
    LeavesBottom s (m.arithmetic op operator s) :=
  .popTwo_bind fun _ _ ↦ .bind (.check _ _) fun _ _ ↦ .push _ _ _

theorem leavesBottom_compare (m : Machine) (op : Op) (comparison : Comparison) (s : State) :
    LeavesBottom s (m.compare op comparison s) :=
  .popTwo_bind fun _ _ ↦ .push _ _ _

theorem leavesBottom_branch (m : Machine) (op : Op) (wanted : Bool) (target : ℕ) (s : State) :
    LeavesBottom s (m.branch op wanted target s) := by
  refine .pop_bind fun condition ↦ ?_
  dsimp only
  split
  · exact .jump _ _ _
  · exact .ok _

theorem leavesBottom_call (m : Machine) (target : ℕ) (s : State) :
    LeavesBottom s (m.call target s) := by
  rw [call]
  split
  · exact .fail s _
  · exact .bind (.jump _ _ _) fun _ _ ↦ .ok _

theorem leavesBottom_ret (s : State) : LeavesBottom s (ret s) := by
  rw [ret]
  split
  · exact .ok _
  · exact .fail s _

theorem leavesBottom_callLibrary (m : Machine) (op : Op) (library method : String) (n : ℕ)
    (s : State) : LeavesBottom s (m.callLibrary op library method n s) := by
  refine .popMany_bind fun arguments ↦ ?_
  dsimp only
  split
  · exact .fail _ _
  · split
    · exact .push _ _ _
    · exact .ok _
    · exact .fail _ _
    · exact .fail _ _

/-- **Inversion of a failed operation.** A failed operation leaves a bottom part of the operand stack
and everything else as it was: no path writes to the program counter, the variables or the open
calls before a check that can still fail. -/
theorem exec_fault (h : m.exec op s = .error f) : ∃ k, f.state = s.took k := by
  suffices hleaves : LeavesBottom s (m.exec op s) from hleaves f h
  cases op with
  | pushNumber | pushString | pushBoolean | pushArray | loadVariable => exact .push _ _ _
  | pop | storeVariable => exact .pop_bind fun _ ↦ .ok _
  | duplicate =>
    rw [exec]
    split
    · exact .push _ _ _
    · exact .fail s _
  | loadElement => exact .popMany_bind fun _ ↦ .bind (.check _ _) fun _ _ ↦ .push _ _ _
  | storeElement =>
    exact .pop_bind fun _ ↦ .popMany_bind fun _ ↦ .bind (.check _ _) fun _ _ ↦ .ok _
  | add | subtract | multiply | divide => exact leavesBottom_arithmetic m _ _ s
  | negate => exact .pop_bind fun _ ↦ .bind (.check _ _) fun _ _ ↦ .push _ _ _
  | compareEqual | compareNotEqual | compareLessThan | compareGreaterThan
  | compareLessThanOrEqual | compareGreaterThanOrEqual => exact leavesBottom_compare m _ _ s
  | toBoolean => exact .pop_bind fun _ ↦ .push _ _ _
  | jump => exact .jump _ _ _
  | jumpIfTrue | jumpIfFalse => exact leavesBottom_branch m _ _ _ s
  | call => exact leavesBottom_call m _ s
  | ret => exact leavesBottom_ret s
  | callLibrary => exact leavesBottom_callLibrary m _ _ _ _ s
  | halt => exact .ok _

end Machine

end StackScript
