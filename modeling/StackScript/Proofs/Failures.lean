import StackScript.Proofs.Operations

/-!
# Why an operation can fail

The counterpart of `Machine.Effect` for operations that do not succeed: `Machine.Reason` lists the
failures that an operation can report, each with the condition under which it does, and
`Machine.exec_reason` says that there are no others. What a failure reports is fixed by the
operation, the limits, the program's length and, for a library call, by the library's own error, so
statements about diagnostics need no other look at `exec`.
-/

namespace StackScript

/-! ## Operands that are refused -/

/-- The failures of an operator on operands that it does not take. -/
inductive Refusal (operator : Token) : Failure → Prop
  | array : Refusal operator (.arrayOperand operator)
  | boolean : Refusal operator (.booleanOperand operator)
  | string : Refusal operator (.stringOperand operator)

namespace Value

variable {v w : Value} {operator : Token} {c : Failure}

theorem operand_eq_error (h : v.operand operator = .error c) : Refusal operator c := by
  cases v with
  | number n => cases h
  | string s =>
    rw [operand] at h
    split at h <;> cases h
    exact .string
  | boolean b =>
    cases h
    exact .boolean
  | array es =>
    cases h
    exact .array

theorem operands_eq_error (h : operands operator v w = .error c) : Refusal operator c := by
  rw [operands] at h
  split at h
  · cases h
    exact .array
  · split at h
    · rename_i hv
      cases h
      exact operand_eq_error hv
    · rename_i hw
      cases h
      exact operand_eq_error hw
    · cases h

/-- Addition joins what it cannot add, so it refuses arrays only. -/
theorem add_eq_error (h : v.add w = .error c) : c = .arrayOperand .plus := by
  rw [add] at h
  split at h
  · cases h
    rfl
  · split at h <;> cases h

end Value

theorem map_eq_error {ε α β : Type} {x : Except ε α} {g : α → β} {e : ε} :
    x.map g = .error e ↔ x = .error e := by
  cases x <;> simp [Except.map]

theorem Stack.top?_eq_none_iff {α : Type} {s : Stack α} : s.top? = none ↔ s.depth = 0 := by
  rw [top?, List.head?_eq_none_iff, s.depth_eq, List.length_eq_zero_iff]

namespace State

variable {op : Op} {s : State} {f : Fault}

theorem check_eq_error {α : Type} {x : Except Failure α} :
    s.check x = .error f ↔ x = .error f.failure ∧ f.state = s := by
  cases x with
  | ok a => exact ⟨nofun, fun h ↦ nomatch h.1⟩
  | error c =>
    rw [check, fail, Except.error.injEq, Except.error.injEq]
    constructor
    · rintro rfl
      exact ⟨rfl, rfl⟩
    · rintro ⟨rfl, rfl⟩
      rfl

theorem keysOf_eq_error {vs : List Value} {c : Failure} (h : keysOf vs = .error c) :
    c = .arrayIndex := by
  induction vs with
  | nil => cases h
  | cons v vs ih =>
    rw [keysOf] at h
    split at h
    · cases h
      rfl
    · exact ih (map_eq_error.1 h)

theorem depth_lt_two_of_popTwo (h : s.popTwo op = .error f) : s.stack.depth < 2 := by
  rcases bind_eq_error.1 h with h | ⟨⟨v, t⟩, hv, h⟩
  · rw [(pop_eq_error.1 h).1]
    exact Nat.two_pos
  · obtain ⟨-, rfl⟩ := pop_eq_ok.1 hv
    rcases bind_eq_error.1 h with h | ⟨⟨w, u⟩, -, h⟩
    · have hdepth := (pop_eq_error.1 h).1
      rw [stack_took, Stack.depth_drop] at hdepth
      omega
    · exact absurd h pure_ne_error

theorem jump_eq_error {length target : ℕ} : s.jump length target = .error f ↔
    length < target ∧ f = ⟨.invalidTarget target, s⟩ := by
  rw [jump]
  by_cases houtside : length < target
  · rw [if_pos houtside, fail, Except.error.injEq, eq_comm]
    exact ⟨fun h ↦ ⟨houtside, h⟩, fun h ↦ h.2⟩
  · rw [if_neg houtside]
    exact iff_of_false pure_ne_error fun h ↦ houtside h.1

end State

/-! ## Reasons -/

namespace Op

/-- How many operands an operation looks for. Duplication looks at one and takes none. -/
def needed : Op → ℕ
  | duplicate => 1
  | op => op.taken

/-- The sign that messages show for an arithmetic operation. -/
def sign? : Op → Option Token
  | add => some .plus
  | subtract | negate => some .minus
  | multiply => some .multiply
  | divide => some .divide
  | _ => none

end Op

namespace Machine

variable {m : Machine} {op : Op} {s : State} {f : Fault} {n : ℕ}

/-- The failures that an operation can report in a state, and when. -/
inductive Reason (m : Machine) (op : Op) (s : State) : Failure → Prop
  /-- There were too few operands. -/
  | underflow (short : s.stack.depth < op.needed) : Reason m op s (.stackUnderflow op.name)
  /-- There was no room for the result. -/
  | overflow (full : m.limits.stackSize ≤ (s.took op.taken).stack.depth) :
      Reason m op s (.stackOverflow m.limits.stackSize)
  /-- An operator met an array. -/
  | arrayOperand (sign : Token) (signed : op.sign? = some sign) :
      Reason m op s (.arrayOperand sign)
  /-- An operator that does not join texts met a boolean. -/
  | booleanOperand (sign : Token) (signed : op.sign? = some sign) (other : op ≠ .add) :
      Reason m op s (.booleanOperand sign)
  /-- An operator that does not join texts met a string that is no number. -/
  | stringOperand (sign : Token) (signed : op.sign? = some sign) (other : op ≠ .add) :
      Reason m op s (.stringOperand sign)
  /-- An element was asked for under an array. -/
  | arrayIndex (name : String) (n : ℕ)
      (indexed : op = .loadElement name n ∨ op = .storeElement name n) :
      Reason m op s .arrayIndex
  /-- Control was sent outside the program. -/
  | invalidTarget (target : ℕ) (named : op.target? = some target)
      (outside : m.program.length < target) : Reason m op s (.invalidTarget target)
  /-- There was no room for another open call. -/
  | callOverflow (target : ℕ) (named : op = .call target)
      (full : m.limits.callDepth ≤ s.calls.depth) :
      Reason m op s (.callOverflow m.limits.callDepth)
  /-- No call was open. -/
  | returnWithoutCall (named : op = .ret) (closed : s.calls.depth = 0) :
      Reason m op s .returnWithoutCall
  /-- There is no such library, or it does not know the method. -/
  | unknownMethod (library method : String) (n : ℕ) (named : op = .callLibrary library method n)
      (unknown : ∀ l, m.libraries.get? library = some l →
        ∃ name, l.call method (s.stack.items.take n).reverse = .error (.unknownMethod name)) :
      Reason m op s (.unknownMethod (qualified library method))
  /-- The library knows the method and refused the arguments. -/
  | libraryCallFailed (library method : String) (n : ℕ) (l : Library) (e : LibraryError)
      (named : op = .callLibrary library method n) (found : m.libraries.get? library = some l)
      (refused : l.call method (s.stack.items.take n).reverse = .error e)
      (known : ∀ name, e ≠ .unknownMethod name) :
      Reason m op s (.libraryCallFailed (qualified library method) e.message)

namespace Reason

theorem of_push {v : Value} (h : (s.took op.taken).push m.limits v = .error f) :
    m.Reason op s f.failure := by
  obtain ⟨hfull, rfl⟩ := State.push_eq_error.1 h
  exact .overflow hfull

theorem of_pop (hneeded : 1 ≤ op.needed) (h : s.pop op = .error f) : m.Reason op s f.failure := by
  obtain ⟨hempty, rfl⟩ := State.pop_eq_error.1 h
  exact .underflow (by omega)

theorem of_popTwo (hneeded : op.needed = 2) (h : s.popTwo op = .error f) :
    m.Reason op s f.failure := by
  have hdepth := State.depth_lt_two_of_popTwo h
  rw [State.popTwo_eq_error h]
  exact .underflow (by omega)

theorem of_jump {target : ℕ} (hnamed : op.target? = some target)
    (h : s.jump m.program.length target = .error f) : m.Reason op s f.failure := by
  obtain ⟨houtside, rfl⟩ := State.jump_eq_error.1 h
  exact .invalidTarget target hnamed houtside

theorem of_refusal {sign : Token} {c : Failure} (hsign : op.sign? = some sign) (hop : op ≠ .add)
    (h : Refusal sign c) : m.Reason op s c := by
  cases h with
  | array => exact .arrayOperand sign hsign
  | boolean => exact .booleanOperand sign hsign hop
  | string => exact .stringOperand sign hsign hop

end Reason

/-- One operator at a time: addition refuses less than the other three. -/
theorem arithmetic_reason {operator : Operator} (htaken : op.taken = 2) (hneeded : op.needed = 2)
    (hsign : op.sign? = some operator.token) (hadd : op = .add ↔ operator = .add)
    (h : m.arithmetic op operator s = .error f) : m.Reason op s f.failure := by
  rcases bind_eq_error.1 h with h | ⟨⟨lhs, rhs, u⟩, hpop, h⟩
  · exact .of_popTwo hneeded h
  obtain ⟨-, -, rfl⟩ := State.popTwo_eq_ok.1 hpop
  rcases bind_eq_error.1 h with h | ⟨w, -, h⟩
  · have happly := (State.check_eq_error.1 h).1
    cases operator with
    | add =>
      rw [Value.add_eq_error happly]
      exact .arrayOperand _ hsign
    | subtract | multiply | divide =>
      refine .of_refusal hsign (fun hop ↦ nomatch hadd.1 hop) ?_
      exact Value.operands_eq_error (map_eq_error.1 happly)
  · rw [← htaken] at h
    exact .of_push h

theorem compare_reason {comparison : Comparison} (htaken : op.taken = 2)
    (hneeded : op.needed = 2) (h : m.compare op comparison s = .error f) :
    m.Reason op s f.failure := by
  rcases bind_eq_error.1 h with h | ⟨⟨lhs, rhs, u⟩, hpop, h⟩
  · exact .of_popTwo hneeded h
  · obtain ⟨-, -, rfl⟩ := State.popTwo_eq_ok.1 hpop
    rw [← htaken] at h
    exact .of_push h

theorem branch_reason {wanted : Bool} {target : ℕ} (hneeded : 1 ≤ op.needed)
    (hnamed : op.target? = some target) (h : m.branch op wanted target s = .error f) :
    m.Reason op s f.failure := by
  rcases bind_eq_error.1 h with h | ⟨⟨condition, u⟩, hpop, h⟩
  · exact .of_pop hneeded h
  · dsimp only at h
    split at h
    · obtain ⟨houtside, rfl⟩ := State.jump_eq_error.1 h
      exact .invalidTarget target hnamed houtside
    · exact absurd h pure_ne_error

theorem call_reason {target : ℕ} (h : m.call target s = .error f) :
    m.Reason (.call target) s f.failure := by
  rw [call] at h
  split at h
  · rename_i hfull
    rw [← Except.error.inj h]
    exact .callOverflow target rfl hfull
  · rcases bind_eq_error.1 h with h | ⟨u, -, h⟩
    · exact .of_jump rfl h
    · exact absurd h pure_ne_error

theorem callLibrary_reason {library method : String}
    (h : m.callLibrary (.callLibrary library method n) library method n s = .error f) :
    m.Reason (.callLibrary library method n) s f.failure := by
  rcases bind_eq_error.1 h with h | ⟨⟨arguments, u⟩, hpop, h⟩
  · obtain ⟨hshort, rfl⟩ := State.popMany_eq_error.1 h
    exact .underflow hshort
  obtain ⟨-, rfl, rfl⟩ := State.popMany_eq_ok.1 hpop
  dsimp only at h
  split at h
  · rename_i hmissing
    rw [← Except.error.inj h]
    refine .unknownMethod library method n rfl fun l hl ↦ ?_
    rw [hmissing] at hl
    cases hl
  · rename_i l hfound
    split at h
    · exact .of_push h
    · exact absurd h pure_ne_error
    · rename_i name hcall
      rw [← Except.error.inj h]
      refine .unknownMethod library method n rfl fun l' hl' ↦ ⟨name, ?_⟩
      rw [hfound] at hl'
      rw [← Option.some_inj.1 hl', hcall]
    · rename_i e hknown hcall
      rw [← Except.error.inj h]
      exact .libraryCallFailed library method n l e rfl hfound hcall fun name he ↦ hknown name he

/-- **Inversion of a failed operation.** -/
theorem exec_reason (h : m.exec op s = .error f) : m.Reason op s f.failure := by
  cases op with
  | pushNumber | pushString | pushBoolean | pushArray | loadVariable =>
    rw [← State.took_zero s] at h
    exact .of_push h
  | pop | storeVariable =>
    rcases bind_eq_error.1 h with h | ⟨⟨v, u⟩, -, h⟩
    · exact .of_pop (Nat.le_refl 1) h
    · exact absurd h pure_ne_error
  | duplicate =>
    rw [exec] at h
    split at h
    · rw [← State.took_zero s] at h
      exact .of_push h
    · rename_i htop
      rw [← Except.error.inj h]
      refine .underflow ?_
      rw [Stack.top?_eq_none_iff.1 htop]
      exact Nat.one_pos
  | loadElement x n =>
    rcases bind_eq_error.1 h with h | ⟨⟨indices, u⟩, hpop, h⟩
    · obtain ⟨hshort, rfl⟩ := State.popMany_eq_error.1 h
      exact .underflow hshort
    · obtain ⟨-, -, rfl⟩ := State.popMany_eq_ok.1 hpop
      rcases bind_eq_error.1 h with h | ⟨keys, -, h⟩
      · rw [State.keysOf_eq_error (State.check_eq_error.1 h).1]
        exact .arrayIndex x n (.inl rfl)
      · exact .of_push h
  | storeElement x n =>
    rcases bind_eq_error.1 h with h | ⟨⟨v, u⟩, hpop, h⟩
    · exact .of_pop (Nat.le_add_right 1 n) h
    · obtain ⟨-, rfl⟩ := State.pop_eq_ok.1 hpop
      rcases bind_eq_error.1 h with h | ⟨⟨indices, u⟩, -, h⟩
      · obtain ⟨hshort, rfl⟩ := State.popMany_eq_error.1 h
        rw [State.stack_took, Stack.depth_drop] at hshort
        have hshort' : s.stack.depth < 1 + n := by omega
        exact .underflow hshort'
      · rcases bind_eq_error.1 h with h | ⟨keys, -, h⟩
        · rw [State.keysOf_eq_error (State.check_eq_error.1 h).1]
          exact .arrayIndex x n (.inr rfl)
        · exact absurd h pure_ne_error
  | add | subtract | multiply | divide =>
    exact arithmetic_reason rfl rfl rfl ⟨fun h ↦ by cases h <;> rfl, fun h ↦ by cases h <;> rfl⟩ h
  | negate =>
    rcases bind_eq_error.1 h with h | ⟨⟨v, u⟩, hpop, h⟩
    · exact .of_pop (Nat.le_refl 1) h
    · obtain ⟨-, rfl⟩ := State.pop_eq_ok.1 hpop
      rcases bind_eq_error.1 h with h | ⟨w, -, h⟩
      · refine .of_refusal rfl (fun hop ↦ by cases hop) ?_
        exact Value.operand_eq_error (map_eq_error.1 (State.check_eq_error.1 h).1)
      · exact .of_push h
  | compareEqual | compareNotEqual | compareLessThan | compareGreaterThan
  | compareLessThanOrEqual | compareGreaterThanOrEqual => exact compare_reason rfl rfl h
  | toBoolean =>
    rcases bind_eq_error.1 h with h | ⟨⟨v, u⟩, hpop, h⟩
    · exact .of_pop (Nat.le_refl 1) h
    · obtain ⟨-, rfl⟩ := State.pop_eq_ok.1 hpop
      exact .of_push h
  | jump target => exact .of_jump rfl h
  | jumpIfTrue target | jumpIfFalse target => exact branch_reason (Nat.le_refl 1) rfl h
  | call target => exact call_reason h
  | ret =>
    obtain ⟨hclosed, rfl⟩ := ret_eq_error.1 h
    exact .returnWithoutCall rfl hclosed
  | callLibrary library method n => exact callLibrary_reason h
  | halt => cases h

end Machine

end StackScript
