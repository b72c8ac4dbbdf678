import StackScript.Proofs.Failures

/-!
# The stack discipline of the operations

Each operation asks for a number of operands, `Op.needed`, that can be read off the operation. With
fewer it does nothing but report that they are missing, `Machine.exec_of_short`. With enough of them
it either has a result, which `Machine.result?` determines from the operands alone, or it has none;
`Machine.exec_delivers` says that the result, and nothing else, is what it tries to push. So a full
stack matters only to operations that give a result and take nothing for it.
-/

namespace StackScript

/-! ## Taking operands -/

theorem ok_bind {ε α β : Type} (a : α) (f : α → Except ε β) : (Except.ok a >>= f) = f a := rfl

theorem Refusal.kind {operator : Token} {c : Failure} (h : Refusal operator c) :
    c.kind ∈ [Diagnostic.Kind.arrayOperand, .booleanOperand, .stringOperand] := by
  cases h <;> simp [Failure.kind]

theorem Value.refusal_of_apply {operator : Operator} {v w : Value} {c : Failure}
    (h : apply operator v w = .error c) : Refusal operator.token c := by
  cases operator with
  | add =>
    rw [add_eq_error h]
    exact .array
  | subtract | multiply | divide => exact operands_eq_error (map_eq_error.1 h)

theorem Op.taken_le_needed (op : Op) : op.taken ≤ op.needed := by
  cases op with
  | duplicate => exact Nat.zero_le 1
  | _ => exact Nat.le_refl _

namespace State

variable {op : Op} {s : State} {n : ℕ}

/-- The top `n` operands, the top one last. -/
def operands (s : State) (n : ℕ) : List Value :=
  (s.stack.items.take n).reverse

theorem exists_items_eq_cons (h : 1 ≤ s.stack.depth) : ∃ v rest, s.stack.items = v :: rest := by
  rw [s.stack.depth_eq] at h
  exact List.exists_cons_of_length_pos h

theorem pop_of_le (op : Op) (h : 1 ≤ s.stack.depth) :
    ∃ v, s.operands 1 = [v] ∧ s.pop op = .ok (v, s.took 1) := by
  obtain ⟨v, rest, hitems⟩ := exists_items_eq_cons h
  refine ⟨v, by simp [operands, hitems], pop_eq_ok.2 ⟨?_, rfl⟩⟩
  simp [Stack.top?, hitems]

theorem popTwo_of_le (op : Op) (h : 2 ≤ s.stack.depth) :
    ∃ v w, s.operands 2 = [v, w] ∧ s.popTwo op = .ok (v, w, s.took 2) := by
  obtain ⟨w, rest, hitems⟩ := exists_items_eq_cons (Nat.le_of_succ_le h)
  have hrest : 1 ≤ (s.took 1).stack.depth := by
    rw [stack_took, Stack.depth_drop]
    omega
  obtain ⟨v, below, hbelow⟩ := exists_items_eq_cons hrest
  rw [stack_took, Stack.items_drop, hitems, List.drop_one, List.tail_cons] at hbelow
  refine ⟨v, w, by simp [operands, hitems, hbelow], popTwo_eq_ok.2 ⟨?_, ?_, rfl⟩⟩
  · simp [Stack.top?, hitems]
  · simp [Stack.top?, hitems, hbelow]

theorem popTwo_of_short (op : Op) (h : s.stack.depth < 2) :
    s.popTwo op = .error ⟨.stackUnderflow op.name, s.took 1⟩ := by
  cases hpop : s.popTwo op with
  | error f => rw [popTwo_eq_error hpop]
  | ok p =>
    -- a second operand lies on top of the stack without the first
    obtain ⟨-, hleft, -⟩ := popTwo_eq_ok.1 hpop
    have hpos := List.length_pos_of_mem (List.mem_of_mem_head? hleft)
    rw [← (s.stack.drop 1).depth_eq, Stack.depth_drop] at hpos
    omega

theorem popMany_of_le (op : Op) (h : n ≤ s.stack.depth) :
    s.popMany op n = .ok (s.operands n, s.took n) :=
  popMany_eq_ok.2 ⟨h, rfl, rfl⟩

/-- Values that lie on top of a stack are its operands, and what is below is left when they are
taken. -/
theorem operands_of_items {vs : List Value} {below : Stack Value}
    (h : s.stack.items = vs.reverse ++ below.items) :
    vs.length ≤ s.stack.depth ∧ s.operands vs.length = vs ∧
      s.stack.drop vs.length = below := by
  have hlength : vs.length = vs.reverse.length := List.length_reverse.symm
  refine ⟨?_, ?_, Stack.ext ?_⟩
  · rw [s.stack.depth_eq, h, List.length_append, List.length_reverse]
    exact Nat.le_add_right _ _
  · rw [State.operands, h, hlength, List.take_left, List.reverse_reverse]
  · rw [Stack.items_drop, h, hlength, List.drop_left]

end State

namespace Machine

variable {m : Machine} {op : Op} {s : State}

/-- The computation reports missing operands of `op`, and has taken some of those of `s`. -/
def ReportsShortage (op : Op) (s : State) {α : Type} (x : Except Fault α) : Prop :=
  ∃ k, x = .error ⟨.stackUnderflow op.name, s.took k⟩

namespace ReportsShortage

variable {α β : Type} {n : ℕ}

theorem bind {x : Except Fault α} (h : ReportsShortage op s x) (g : α → Except Fault β) :
    ReportsShortage op s (x >>= g) := by
  obtain ⟨k, hk⟩ := h
  exact ⟨k, bind_eq_error.2 (.inl hk)⟩

theorem pop (h : s.stack.depth < 1) : ReportsShortage op s (s.pop op) :=
  ⟨0, State.pop_eq_error.2 ⟨Nat.lt_one_iff.1 h, by rw [State.took_zero]⟩⟩

theorem popTwo (h : s.stack.depth < 2) : ReportsShortage op s (s.popTwo op) :=
  ⟨1, State.popTwo_of_short op h⟩

theorem popMany (h : s.stack.depth < n) : ReportsShortage op s (s.popMany op n) :=
  ⟨0, State.popMany_eq_error.2 ⟨h, by rw [State.took_zero]⟩⟩

end ReportsShortage

/-- **Too few operands.** They are looked for before anything else is, so nothing else is ever
reported in their place. -/
theorem exec_of_short (m : Machine) (h : s.stack.depth < op.needed) :
    ReportsShortage op s (m.exec op s) := by
  cases op with
  | pop | storeVariable | negate | toBoolean => exact (ReportsShortage.pop h).bind _
  | jumpIfTrue | jumpIfFalse => exact (ReportsShortage.pop h).bind _
  | duplicate =>
    rw [exec, Stack.top?_eq_none_iff.2 (Nat.lt_one_iff.1 h)]
    exact ⟨0, by rw [State.took_zero]; rfl⟩
  | add | subtract | multiply | divide => exact (ReportsShortage.popTwo h).bind _
  | compareEqual | compareNotEqual | compareLessThan | compareGreaterThan
  | compareLessThanOrEqual | compareGreaterThanOrEqual => exact (ReportsShortage.popTwo h).bind _
  | loadElement | callLibrary => exact (ReportsShortage.popMany h).bind _
  | storeElement x n =>
    by_cases hempty : s.stack.depth < 1
    · exact (ReportsShortage.pop hempty).bind _
    · -- the value is there and is taken, so the indices are counted without it
      obtain ⟨v, -, hpop⟩ := State.pop_of_le (.storeElement x n) (Nat.not_lt.1 hempty)
      have hindices : (s.took 1).stack.depth < n := by
        have hneeded : s.stack.depth < 1 + n := h
        rw [State.stack_took, Stack.depth_drop]
        omega
      refine ⟨1, bind_eq_error.2 (.inr ⟨_, hpop, bind_eq_error.2 (.inl ?_)⟩)⟩
      exact State.popMany_eq_error.2 ⟨hindices, rfl⟩
  | pushNumber | pushString | pushBoolean | pushArray | loadVariable | jump | call | ret | halt =>
    exact absurd h (Nat.not_lt_zero _)

/-! ## Results -/

/-- What an operator gives for two operands. -/
def applied (operator : Operator) : List Value → Option Value
  | [v, w] => (Value.apply operator v w).toOption
  | _ => none

/-- What a comparison gives for two operands. -/
def compared (comparison : Comparison) : List Value → Option Value
  | [v, w] => some (.boolean (Value.compare comparison v w))
  | _ => none

/-- What an operation on one operand gives. -/
def single (f : Value → Option Value) : List Value → Option Value
  | [v] => f v
  | _ => none

/-- The result of an operation, if it has one: what it gives for its operands, the top one last,
while the variables are bound as given. -/
def result? (m : Machine) (op : Op) (b : Bindings) (operands : List Value) : Option Value :=
  match op with
  | .pushNumber n => some (.number n)
  | .pushString t => some (.string t)
  | .pushBoolean c => some (.boolean c)
  | .pushArray es => some (.array es)
  | .duplicate => single some operands
  | .loadVariable x => some (b.load x [])
  | .loadElement x _ => (State.keysOf operands).toOption.map (b.load x)
  | .add => applied .add operands
  | .subtract => applied .subtract operands
  | .multiply => applied .multiply operands
  | .divide => applied .divide operands
  | .negate => single (fun v ↦ v.negate.toOption) operands
  | .compareEqual => compared .equal operands
  | .compareNotEqual => compared .notEqual operands
  | .compareLessThan => compared .lessThan operands
  | .compareGreaterThan => compared .greaterThan operands
  | .compareLessThanOrEqual => compared .lessThanOrEqual operands
  | .compareGreaterThanOrEqual => compared .greaterThanOrEqual operands
  | .toBoolean => single (fun v ↦ some (.boolean v.truth)) operands
  | .callLibrary library method _ =>
    (m.libraries.get? library).bind fun l ↦ (l.call method operands).toOption.join
  | _ => none

/-- The computation ends an operation that has the given result: a result is pushed in the place of
the operands, and without one the operands are gone and the stack is no longer a reason to fail. -/
def Delivers (m : Machine) (op : Op) (s : State) (x : Except Fault State) : Option Value → Prop
  | some v => x = (s.took op.taken).push m.limits v
  | none => (∀ t, x = .ok t → t.stack = s.stack.drop op.taken) ∧
      ∀ f, x = .error f → f.failure.kind ≠ .stackOverflow ∧ f.failure.kind ≠ .stackUnderflow

namespace Delivers

theorem ok {t : State} (h : t.stack = s.stack.drop op.taken) : m.Delivers op s (.ok t) none := by
  refine ⟨fun u hu ↦ ?_, fun f hf ↦ by cases hf⟩
  rw [← Except.ok.inj hu]
  exact h

theorem error {f : Fault} (hover : f.failure.kind ≠ .stackOverflow)
    (hunder : f.failure.kind ≠ .stackUnderflow) : m.Delivers op s (.error f) none := by
  refine ⟨fun t ht ↦ ?_, fun g hg ↦ ?_⟩
  · cases ht
  · rw [← Except.error.inj hg]
    exact ⟨hover, hunder⟩

/-- A computed result is pushed; a refusal is reported. -/
theorem check_push {x : Except Failure Value} (h : ∀ c, x = .error c → ∃ sign, Refusal sign c) :
    m.Delivers op s ((s.took op.taken).check x >>= fun v ↦ (s.took op.taken).push m.limits v)
      x.toOption := by
  cases x with
  | ok v => rfl
  | error c =>
    obtain ⟨sign, hc⟩ := h c rfl
    have hkind := hc.kind
    exact error (by rintro h; simp [h] at hkind) (by rintro h; simp [h] at hkind)

theorem jump {t : State} (length target : ℕ) (h : t.stack = s.stack.drop op.taken) :
    m.Delivers op s (t.jump length target) none := by
  rw [State.jump]
  split
  · exact error (by simp [Failure.kind]) (by simp [Failure.kind])
  · exact ok h

end Delivers

theorem arithmetic_delivers {operator : Operator} (m : Machine) (htaken : op.taken = 2)
    (h : 2 ≤ s.stack.depth) :
    m.Delivers op s (m.arithmetic op operator s) (applied operator (s.operands 2)) := by
  obtain ⟨v, w, hoperands, hpop⟩ := State.popTwo_of_le op h
  rw [arithmetic, hpop, hoperands, ← htaken]
  exact Delivers.check_push fun c hc ↦ ⟨_, Value.refusal_of_apply hc⟩

theorem compare_delivers {comparison : Comparison} (m : Machine) (htaken : op.taken = 2)
    (h : 2 ≤ s.stack.depth) :
    m.Delivers op s (m.compare op comparison s) (compared comparison (s.operands 2)) := by
  obtain ⟨v, w, hoperands, hpop⟩ := State.popTwo_of_le op h
  rw [compare, hpop, hoperands, ← htaken]
  rfl

theorem branch_delivers {wanted : Bool} {target : ℕ} (m : Machine) (htaken : op.taken = 1)
    (h : 1 ≤ s.stack.depth) : m.Delivers op s (m.branch op wanted target s) none := by
  obtain ⟨v, -, hpop⟩ := State.pop_of_le op h
  have hstack : (s.took 1).stack = s.stack.drop op.taken := by rw [htaken, State.stack_took]
  rw [branch, hpop, ok_bind]
  dsimp only
  split
  · exact .jump _ _ hstack
  · exact .ok hstack

theorem call_delivers (m : Machine) (target : ℕ) :
    m.Delivers (.call target) s (m.call target s) none := by
  have hstack : s.stack = s.stack.drop 0 := (Stack.drop_zero _).symm
  rw [call]
  split
  · exact .error (by simp [Failure.kind]) (by simp [Failure.kind])
  · rw [State.jump]
    split
    · exact .error (by simp [Failure.kind]) (by simp [Failure.kind])
    · exact .ok hstack

theorem ret_delivers (m : Machine) : m.Delivers .ret s (ret s) none := by
  rw [ret]
  split
  · exact .ok (Stack.drop_zero _).symm
  · exact .error (by simp [Failure.kind]) (by simp [Failure.kind])

theorem callLibrary_delivers {library method : String} {n : ℕ} (m : Machine)
    (h : n ≤ s.stack.depth) :
    m.Delivers (.callLibrary library method n) s
      (m.callLibrary (.callLibrary library method n) library method n s)
      (m.result? (.callLibrary library method n) s.bindings (s.operands n)) := by
  rw [callLibrary, State.popMany_of_le _ h, result?, ok_bind]
  dsimp only
  split
  · rename_i hmissing
    rw [hmissing]
    exact .error (by simp [Failure.kind]) (by simp [Failure.kind])
  · rename_i l hfound
    rw [hfound]
    dsimp only [Option.bind_some]
    split
    · rename_i v hcall
      rw [hcall]
      rfl
    · rename_i hcall
      rw [hcall]
      exact .ok rfl
    · rename_i name hcall
      rw [hcall]
      exact .error (by simp [Failure.kind]) (by simp [Failure.kind])
    · rename_i e _ hcall
      rw [hcall]
      exact .error (by simp [Failure.kind]) (by simp [Failure.kind])

/-- **Enough operands.** One case for each operation, or for each group of alike ones. -/
theorem exec_delivers (m : Machine) (h : op.needed ≤ s.stack.depth) :
    m.Delivers op s (m.exec op s) (m.result? op s.bindings (s.operands op.needed)) := by
  have hzero : s.took 0 = s := State.took_zero s
  cases op with
  | pushNumber | pushString | pushBoolean | pushArray | loadVariable =>
    exact congrArg (State.push m.limits · _) hzero.symm
  | pop =>
    obtain ⟨v, -, hpop⟩ := State.pop_of_le .pop h
    rw [exec, hpop]
    exact .ok rfl
  | duplicate =>
    obtain ⟨v, rest, hitems⟩ := State.exists_items_eq_cons h
    have htop : s.stack.top? = some v := by simp [Stack.top?, hitems]
    have hoperands : s.operands 1 = [v] := by simp [State.operands, hitems]
    rw [exec, htop, result?, Op.needed, hoperands]
    exact congrArg (State.push m.limits · v) hzero.symm
  | storeVariable x =>
    obtain ⟨v, -, hpop⟩ := State.pop_of_le (.storeVariable x) h
    rw [exec, hpop]
    exact .ok rfl
  | loadElement x n =>
    have hneeded : n ≤ s.stack.depth := h
    rw [exec, State.popMany_of_le _ hneeded, ok_bind]
    change m.Delivers _ s _ ((State.keysOf (s.operands n)).toOption.map _)
    dsimp only
    cases hkeys : State.keysOf (s.operands n) with
    | ok keys => rfl
    | error c =>
      rw [State.keysOf_eq_error hkeys]
      exact .error (by simp [Failure.kind]) (by simp [Failure.kind])
  | storeElement x n =>
    have hneeded : 1 + n ≤ s.stack.depth := h
    have hvalue : 1 ≤ s.stack.depth := Nat.le_trans (Nat.le_add_right 1 n) hneeded
    obtain ⟨v, -, hpop⟩ := State.pop_of_le (.storeElement x n) hvalue
    have hindices : n ≤ (s.took 1).stack.depth := by
      rw [State.stack_took, Stack.depth_drop]
      omega
    rw [exec, hpop, ok_bind]
    dsimp only
    rw [State.popMany_of_le _ hindices, ok_bind]
    dsimp only
    cases hkeys : State.keysOf ((s.took 1).operands n) with
    | ok keys => exact .ok (by rw [State.took_took]; rfl)
    | error c =>
      rw [State.keysOf_eq_error hkeys]
      exact .error (by simp [Failure.kind]) (by simp [Failure.kind])
  | add | subtract | multiply | divide => exact arithmetic_delivers m rfl h
  | negate =>
    obtain ⟨v, hoperands, hpop⟩ := State.pop_of_le .negate h
    change m.Delivers _ s _ (single _ (s.operands 1))
    rw [exec, hpop, hoperands]
    exact Delivers.check_push fun c hc ↦ ⟨_, Value.operand_eq_error (map_eq_error.1 hc)⟩
  | compareEqual | compareNotEqual | compareLessThan | compareGreaterThan
  | compareLessThanOrEqual | compareGreaterThanOrEqual => exact compare_delivers m rfl h
  | toBoolean =>
    obtain ⟨v, hoperands, hpop⟩ := State.pop_of_le .toBoolean h
    change m.Delivers _ s _ (single _ (s.operands 1))
    rw [exec, hpop, hoperands]
    rfl
  | jump target => exact .jump _ _ (Stack.drop_zero _).symm
  | jumpIfTrue target | jumpIfFalse target => exact branch_delivers m rfl h
  | call target => exact call_delivers m target
  | ret => exact ret_delivers m
  | callLibrary library method n => exact callLibrary_delivers m h
  | halt =>
    refine .ok ?_
    rw [State.complete]
    split <;> exact (Stack.drop_zero _).symm

/-- A result that finds room is pushed in the place of the operands. -/
theorem exec_of_result {below : Stack Value} {v : Value} (m : Machine)
    (henough : op.needed ≤ s.stack.depth)
    (hresult : m.result? op s.bindings (s.operands op.needed) = some v)
    (hbelow : s.stack.drop op.taken = below) (hroom : below.depth < m.limits.stackSize) :
    m.exec op s = .ok { s with stack := below.push v } := by
  have hdelivers := exec_delivers m henough
  rw [hresult] at hdelivers
  subst hbelow
  exact Eq.trans hdelivers (State.push_eq_ok.2 ⟨hroom, rfl⟩)

/-! ## Failures of the stack -/

/-- The operation fails, and its failure is of the given kind. -/
def FailsWith (m : Machine) (op : Op) (s : State) (kind : Diagnostic.Kind) : Prop :=
  ∃ f, m.exec op s = .error f ∧ f.failure.kind = kind

/-- The operation has a result and takes nothing for it, so that it would leave one operand more
than it found. -/
def Grows (m : Machine) (op : Op) (s : State) : Prop :=
  match op with
  | .pushNumber _ | .pushString _ | .pushBoolean _ | .pushArray _ | .loadVariable _ => True
  | .duplicate => s.stack.depth ≠ 0
  | .loadElement _ n => n = 0
  | .callLibrary library method n => n = 0 ∧
      ∃ l v, m.libraries.get? library = some l ∧ l.call method [] = .ok (some v)
  | _ => False

theorem FailsWith.eq_of_error {kind : Diagnostic.Kind} {f : Fault} (h : m.FailsWith op s kind)
    (hf : m.exec op s = .error f) : kind = f.failure.kind := by
  obtain ⟨g, hg, rfl⟩ := h
  rw [hf] at hg
  rw [Except.error.inj hg]

theorem failsWith_of_short {kind : Diagnostic.Kind} (h : s.stack.depth < op.needed) :
    m.FailsWith op s kind ↔ kind = .stackUnderflow := by
  obtain ⟨k, hk⟩ := exec_of_short m h
  refine ⟨fun hfails ↦ hfails.eq_of_error hk, ?_⟩
  rintro rfl
  exact ⟨_, hk, rfl⟩

theorem failsWith_underflow_iff :
    m.FailsWith op s .stackUnderflow ↔ s.stack.depth < op.needed := by
  refine ⟨fun ⟨f, hf, hkind⟩ ↦ Nat.not_le.1 fun henough ↦ ?_, fun h ↦ (failsWith_of_short h).2 rfl⟩
  have hdelivers := exec_delivers m henough
  rw [hf] at hdelivers
  -- with enough operands only a result that finds no room is left to blame
  cases hresult : m.result? op s.bindings (s.operands op.needed) with
  | none =>
    rw [hresult] at hdelivers
    exact (hdelivers.2 f rfl).2 hkind
  | some v =>
    rw [hresult] at hdelivers
    obtain ⟨-, rfl⟩ := State.push_eq_error.1 hdelivers.symm
    cases hkind

theorem failsWith_overflow_iff : m.FailsWith op s .stackOverflow ↔ op.needed ≤ s.stack.depth ∧
    (m.result? op s.bindings (s.operands op.needed)).isSome ∧
      m.limits.stackSize ≤ s.stack.depth - op.taken := by
  by_cases henough : op.needed ≤ s.stack.depth
  · have hdelivers := exec_delivers m henough
    cases hresult : m.result? op s.bindings (s.operands op.needed) with
    | none =>
      rw [hresult] at hdelivers
      refine iff_of_false (fun ⟨f, hf, hkind⟩ ↦ (hdelivers.2 f hf).1 hkind) ?_
      simp
    | some v =>
      rw [hresult] at hdelivers
      simp only [FailsWith, show m.exec op s = _ from hdelivers, State.push_eq_error, henough,
        State.stack_took, Stack.depth_drop, Option.isSome_some, true_and]
      exact ⟨fun ⟨f, hf, _⟩ ↦ hf.1, fun hfull ↦ ⟨_, ⟨hfull, rfl⟩, rfl⟩⟩
  · refine iff_of_false (fun hfails ↦ ?_) fun h ↦ henough h.1
    cases (failsWith_of_short (Nat.not_le.1 henough)).1 hfails

/-- Operations that take nothing and have a result, one by one. -/
theorem grows_iff : m.Grows op s ↔ op.needed ≤ s.stack.depth ∧ op.taken = 0 ∧
    (m.result? op s.bindings (s.operands op.needed)).isSome := by
  cases op with
  | pushNumber | pushString | pushBoolean | pushArray | loadVariable =>
    exact iff_of_true trivial ⟨Nat.zero_le _, rfl, rfl⟩
  | duplicate =>
    refine ⟨fun hdepth ↦ ?_, fun h ↦ Nat.ne_of_gt h.1⟩
    have henough : 1 ≤ s.stack.depth := Nat.pos_of_ne_zero hdepth
    obtain ⟨v, hoperands, -⟩ := State.pop_of_le .duplicate henough
    refine ⟨henough, rfl, ?_⟩
    change (single some (s.operands 1)).isSome
    rw [hoperands]
    rfl
  | loadElement x n =>
    refine ⟨?_, fun h ↦ h.2.1⟩
    rintro rfl
    exact ⟨Nat.zero_le _, rfl, rfl⟩
  | callLibrary library method n =>
    have hresult : (m.result? (.callLibrary library method 0) s.bindings (s.operands 0)) =
        (m.libraries.get? library).bind fun l ↦ (l.call method []).toOption.join := by
      simp [result?, State.operands]
    constructor
    · rintro ⟨rfl, l, v, hfound, hcall⟩
      refine ⟨Nat.zero_le _, rfl, ?_⟩
      change (m.result? (.callLibrary library method 0) s.bindings (s.operands 0)).isSome
      rw [hresult, hfound, Option.bind_some, hcall]
      rfl
    · rintro ⟨-, hn, hsome⟩
      obtain rfl : n = 0 := hn
      obtain ⟨v, hv⟩ := Option.isSome_iff_exists.1 hsome
      obtain ⟨l, hfound, hjoin⟩ := Option.bind_eq_some_iff.1 (hresult.symm.trans hv)
      refine ⟨rfl, l, v, hfound, ?_⟩
      cases hcall : l.call method [] with
      | error e =>
        rw [hcall] at hjoin
        cases hjoin
      | ok o =>
        rw [hcall] at hjoin
        rw [show o = some v from hjoin]
  | pop | storeVariable | negate | toBoolean | jumpIfTrue | jumpIfFalse | add | subtract | multiply
  | divide | compareEqual | compareNotEqual | compareLessThan | compareGreaterThan
  | compareLessThanOrEqual | compareGreaterThanOrEqual | storeElement =>
    exact iff_of_false id fun h ↦ by simp [Op.taken] at h
  | jump | call | ret | halt => exact iff_of_false id fun h ↦ by simp [result?] at h

/-- **The stack discipline.** Let no more operands lie on the stack than may. An operation reports
missing operands exactly if there are fewer than it needs, and then nothing else. If it succeeds,
the operands that it takes have made room for its result, if it has one. It reports a full stack
exactly if the stack is full and the operation has a result for which it takes nothing. -/
theorem exec_keeps_stack_discipline (m : Machine) (op : Op) (s : State)
    (hdepth : s.stack.depth ≤ m.limits.stackSize) :
    (m.FailsWith op s .stackUnderflow ↔ s.stack.depth < op.needed) ∧
    (s.stack.depth < op.needed → ∀ kind, m.FailsWith op s kind → kind = .stackUnderflow) ∧
    (∀ t, m.exec op s = .ok t → t.stack.items =
      (m.result? op s.bindings (s.operands op.needed)).toList ++ s.stack.items.drop op.taken) ∧
    (m.FailsWith op s .stackOverflow ↔
      s.stack.depth = m.limits.stackSize ∧ m.Grows op s) := by
  refine ⟨failsWith_underflow_iff, fun hshort kind ↦ (failsWith_of_short hshort).1, ?_, ?_⟩
  · intro t ht
    have henough : op.needed ≤ s.stack.depth := Nat.not_lt.1 fun hshort ↦ by
      obtain ⟨k, hk⟩ := exec_of_short m hshort
      rw [ht] at hk
      cases hk
    have hdelivers := exec_delivers m henough
    rw [ht] at hdelivers
    cases hresult : m.result? op s.bindings (s.operands op.needed) with
    | none =>
      rw [hresult] at hdelivers
      rw [hdelivers.1 t rfl]
      rfl
    | some v =>
      rw [hresult] at hdelivers
      obtain ⟨-, rfl⟩ := State.push_eq_ok.1 hdelivers.symm
      rfl
  · rw [failsWith_overflow_iff, grows_iff]
    have htaken := op.taken_le_needed
    constructor
    · -- no room is left where operands were, so none were taken
      rintro ⟨henough, hsome, hfull⟩
      exact ⟨by omega, henough, by omega, hsome⟩
    · rintro ⟨hfull, henough, hnothing, hsome⟩
      exact ⟨henough, hsome, by omega⟩

def roomForTwo : Machine where
  program := ⟨#[]⟩
  limits := { stackSize := 2 }
  libraries := []

/-- A string on top of an array, which is no index. -/
def textOverArray : State := { stack := .ofItems [.string "x", .array []] }

/-- On a full stack a comparison finds room for its result and duplication does not. An element
store that lacks an index says so, even though the one that it has is an array. -/
theorem exec_keeps_stack_discipline_textOverArray :
    textOverArray.stack.depth ≤ roomForTwo.limits.stackSize ∧
    roomForTwo.FailsWith .duplicate textOverArray .stackOverflow ∧
    ¬roomForTwo.FailsWith .compareEqual textOverArray .stackOverflow ∧
    (∀ t, roomForTwo.exec .compareEqual textOverArray = .ok t →
      t.stack.items = [.boolean false]) ∧
    roomForTwo.FailsWith (.storeElement "a" 2) textOverArray .stackUnderflow := by
  have hdepth : textOverArray.stack.depth ≤ roomForTwo.limits.stackSize := by decide
  obtain ⟨-, -, hitems, hequal⟩ :=
    exec_keeps_stack_discipline roomForTwo .compareEqual textOverArray hdepth
  obtain ⟨-, -, -, hduplicate⟩ :=
    exec_keeps_stack_discipline roomForTwo .duplicate textOverArray hdepth
  obtain ⟨hstore, -⟩ :=
    exec_keeps_stack_discipline roomForTwo (.storeElement "a" 2) textOverArray hdepth
  refine ⟨hdepth, ?_, fun h ↦ (hequal.1 h).2, fun t ht ↦ hitems t ht, ?_⟩
  · exact hduplicate.2 ⟨rfl, Nat.succ_ne_zero 1⟩
  · exact hstore.2 (by decide)

end Machine

end StackScript
