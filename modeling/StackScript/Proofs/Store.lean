import StackScript.Execution
import StackScript.Proofs.DistinctKeys
import StackScript.Proofs.Json.Yields
import StackScript.Proofs.Runs

/-!
# The representation invariant of the store

Arrays and bindings are lists of pairs, and every operation on them relies on their keys being
distinct. They are, in every state of every run of a program that was loaded from a text: no array
with a repeated key is ever bound or pushed, at whatever depth, and the variables are there once
each, in the order of their names.

Values come into a run from three sides. Constants were read from the text of the program, in which
a key may be repeated, so the readers have to merge repeated keys at every depth. Library methods
make values of their own. Everything else is made by the operations from what is already there, so
the invariant is what all three keep; `State.Keeps` follows it through the text of each operation.
-/

namespace StackScript

/-! ## Loaded programs -/

/-- The constant of the operation has distinct keys at every depth. -/
def Op.DistinctKeys : Op → Prop
  | .pushArray es => (Value.array es).DistinctKeys
  | _ => True

/-- All constants of the program have distinct keys at every depth. -/
def Program.DistinctKeys (p : Program) : Prop :=
  ∀ i ∈ p.instructions.toList, i.op.DistinctKeys

namespace Json.Reader

theorem yields_valueCases {array : Reader (List (String × Value))}
    (h : Yields array fun ps ↦ ∀ p ∈ ps, p.2.DistinctKeys) :
    ∀ c ∈ valueCases array, c.2.Yields Value.DistinctKeys := by
  rw [valueCases, List.forall_mem_cons, List.forall_mem_cons, List.forall_mem_cons,
    List.forall_mem_singleton]
  refine ⟨?number, ?string, ?boolean, ?array⟩
  case number => exact yields_bind fun n ↦ yields_pure (.number n)
  case string => exact yields_bind fun s ↦ yields_pure (.string s)
  case boolean => exact yields_bind fun b ↦ yields_pure (.boolean b)
  case array => exact h.bind fun ps hps ↦ yields_pure (.ofPairs hps)

/-- Keys may be repeated among the pairs, but not inside the values. Values and pairs are read with
the help of one another, a level further in. -/
theorem yields_value_and_pairs (depth : ℕ) :
    Yields (value depth) Value.DistinctKeys ∧
      Yields (pairs depth) fun ps ↦ ∀ p ∈ ps, p.2.DistinctKeys := by
  induction depth with
  | zero =>
    rw [value, pairs]
    exact ⟨yields_variant (yields_valueCases (yields_next _)) 0, (yields_next _).map 0⟩
  | succ depth ih =>
    rw [value, pairs]
    exact ⟨yields_variant (yields_valueCases ih.2) _, ih.1.map _⟩

theorem yields_entries (depth : ℕ) : Yields (entries depth) fun es ↦ (Value.array es).DistinctKeys :=
  (yields_value_and_pairs depth).2.bind fun _ hps ↦ yields_pure (.ofPairs hps)

theorem yields_opCases (depth : ℕ) : ∀ c ∈ opCases depth, c.2.Yields Op.DistinctKeys := by
  have harray : (operand (entries depth) .pushArray).Yields Op.DistinctKeys :=
    (yields_entries depth).bind fun _ hes ↦ yields_pure hes
  simp only [opCases, List.forall_mem_cons, harray, Case.yields_plain, Op.DistinctKeys, true_and,
    List.not_mem_nil, false_implies, implies_true, and_true]
  -- what is left are the operations with other operands, of which nothing is asked
  and_intros <;> exact yields_bind fun _ ↦ yields_pure trivial

theorem yields_op (depth : ℕ) : Yields (op depth) Op.DistinctKeys :=
  yields_variant (yields_opCases _) depth

theorem yields_instruction (depth : ℕ) :
    Yields (instruction depth) fun i ↦ i.op.DistinctKeys := by
  refine yields_record ?_ trivial _ _
  rw [List.forall_mem_cons, List.forall_mem_singleton]
  constructor
  · exact (yields_op _).into fun _ _ _ ho ↦ ho
  · exact Yields.into (Q := fun _ ↦ True) (fun _ _ _ _ ↦ trivial) fun _ _ hi _ ↦ hi

theorem yields_program (depth : ℕ) : Yields (program depth) Program.DistinctKeys := by
  refine yields_record ?_ (fun i hi ↦ by cases hi) _ _
  rw [List.forall_mem_singleton]
  exact ((yields_instruction _).list _).into fun _ _ _ his ↦ his

end Json.Reader

theorem Program.distinctKeys_of_load {text : String} {p : Program} (h : load text = .ok p) :
    p.DistinctKeys :=
  Json.parse_yields (Json.Reader.yields_program _) h

/-! ## Operations -/

namespace State

variable {s t : State} {op : Op} {v : Value} {n : ℕ}

/-- What the program has pushed and stored has distinct keys at every depth, and its variables are
in order. -/
structure WellFormed (s : State) : Prop where
  /-- Every array among the operands has distinct keys. -/
  stack : ∀ v ∈ s.stack.items, v.DistinctKeys
  /-- The variables are well formed. -/
  bindings : s.bindings.WellFormed

namespace WellFormed

theorem initial : State.initial.WellFormed where
  stack := fun v hv ↦ by cases hv
  bindings := .empty

theorem took (h : s.WellFormed) (n : ℕ) : (s.took n).WellFormed :=
  { h with stack := fun v hv ↦ h.stack v (List.mem_of_mem_drop hv) }

theorem top? (h : s.WellFormed) (hv : s.stack.top? = some v) : v.DistinctKeys :=
  h.stack v (List.mem_of_mem_head? hv)

theorem complete (h : s.WellFormed) : s.complete.WellFormed := by
  rw [State.complete]
  split
  · exact { h with }
  · exact h

end WellFormed

/-- If the computation succeeds, the state that it comes to is well formed. -/
def Keeps (x : Except Fault State) : Prop :=
  ∀ t, x = .ok t → t.WellFormed

namespace Keeps

theorem ok (h : s.WellFormed) : Keeps (.ok s) := by
  intro t ht
  rw [← Except.ok.inj ht]
  exact h

theorem fail (s : State) (c : Failure) : Keeps (s.fail c) := by
  intro t ht
  cases ht

theorem push (h : s.WellFormed) (hv : v.DistinctKeys) (limits : Limits) :
    Keeps (s.push limits v) := by
  intro t ht
  obtain ⟨-, rfl⟩ := push_eq_ok.1 ht
  exact { h with stack := List.forall_mem_cons.2 ⟨hv, h.stack⟩ }

theorem jump (h : s.WellFormed) (length target : ℕ) : Keeps (s.jump length target) := by
  intro t ht
  obtain ⟨-, rfl⟩ := jump_eq_ok.1 ht
  exact { h with }

theorem check_bind {α : Type} {x : Except Failure α} {g : α → Except Fault State}
    (hg : ∀ a, x = .ok a → Keeps (g a)) : Keeps (s.check x >>= g) := by
  cases x with
  | ok a => exact hg a rfl
  | error c => exact fail s c

theorem pop_bind (h : s.WellFormed) {g : Value × State → Except Fault State}
    (hg : ∀ v, v.DistinctKeys → (s.took 1).WellFormed → Keeps (g (v, s.took 1))) :
    Keeps (s.pop op >>= g) := by
  intro t ht
  obtain ⟨⟨v, u⟩, hpop, ht⟩ := bind_eq_ok.1 ht
  obtain ⟨hv, rfl⟩ := pop_eq_ok.1 hpop
  exact hg v (h.top? hv) (h.took 1) t ht

theorem popTwo_bind (h : s.WellFormed) {g : Value × Value × State → Except Fault State}
    (hg : ∀ lhs rhs, (s.took 2).WellFormed → Keeps (g (lhs, rhs, s.took 2))) :
    Keeps (s.popTwo op >>= g) := by
  intro t ht
  obtain ⟨⟨lhs, rhs, u⟩, hpop, ht⟩ := bind_eq_ok.1 ht
  obtain ⟨-, -, rfl⟩ := popTwo_eq_ok.1 hpop
  exact hg lhs rhs (h.took 2) t ht

theorem popMany_bind (h : s.WellFormed) {g : List Value × State → Except Fault State}
    (hg : ∀ vs, (∀ v ∈ vs, v.DistinctKeys) → (s.took n).WellFormed → Keeps (g (vs, s.took n))) :
    Keeps (s.popMany op n >>= g) := by
  intro t ht
  obtain ⟨⟨vs, u⟩, hpop, ht⟩ := bind_eq_ok.1 ht
  obtain ⟨-, rfl, rfl⟩ := popMany_eq_ok.1 hpop
  refine hg _ ?_ (h.took n) t ht
  intro v hv
  exact h.stack v (List.mem_of_mem_take (List.mem_reverse.1 hv))

end Keeps

end State

namespace Machine

variable {m : Machine} {s t : State} {op : Op}

theorem keeps_arithmetic (h : s.WellFormed) (m : Machine) (op : Op) (operator : Operator) :
    State.Keeps (m.arithmetic op operator s) := by
  refine .popTwo_bind h fun lhs rhs hs ↦ .check_bind fun v hv ↦ ?_
  exact .push hs (Value.distinctKeys_of_apply hv) _

theorem keeps_compare (h : s.WellFormed) (m : Machine) (op : Op) (comparison : Comparison) :
    State.Keeps (m.compare op comparison s) :=
  .popTwo_bind h fun _ _ hs ↦ .push hs (.boolean _) _

theorem keeps_branch (h : s.WellFormed) (m : Machine) (op : Op) (wanted : Bool) (target : ℕ) :
    State.Keeps (m.branch op wanted target s) := by
  refine .pop_bind h fun condition _ hs ↦ ?_
  dsimp only
  split
  · exact .jump hs _ _
  · exact .ok hs

theorem keeps_callLibrary (hlibraries : m.libraries.KeepsKeys) (h : s.WellFormed) (op : Op)
    (library method : String) (n : ℕ) : State.Keeps (m.callLibrary op library method n s) := by
  refine .popMany_bind h fun arguments harguments hs ↦ ?_
  dsimp only
  split
  · exact .fail _ _
  · rename_i l hl
    split
    · rename_i v hv
      have hkeeps := hlibraries (library, l) (Entries.mem_of_get?_eq_some hl)
      exact .push hs (hkeeps method arguments harguments v hv) _
    · exact .ok hs
    · exact .fail _ _
    · exact .fail _ _

/-- One case for each operation, or for each group of alike ones. -/
theorem keeps_exec (hlibraries : m.libraries.KeepsKeys) (hop : op.DistinctKeys)
    (h : s.WellFormed) : State.Keeps (m.exec op s) := by
  cases op with
  | pushNumber n => exact .push h (.number n) _
  | pushString t => exact .push h (.string t) _
  | pushBoolean b => exact .push h (.boolean b) _
  | pushArray es => exact .push h hop _
  | pop => exact .pop_bind h fun _ _ hs ↦ .ok hs
  | duplicate =>
    rw [exec]
    split
    · rename_i v hv
      exact .push h (h.top? hv) _
    · exact .fail _ _
  | loadVariable x => exact .push h (h.bindings.load x []) _
  | storeVariable x =>
    exact .pop_bind h fun v hv hs ↦ .ok { hs with bindings := hs.bindings.insert x hv }
  | loadElement x n =>
    exact .popMany_bind h fun _ _ hs ↦ .check_bind fun keys _ ↦
      .push hs (hs.bindings.load x keys) _
  | storeElement x n =>
    refine .pop_bind h fun v hv hs ↦ .popMany_bind hs fun _ _ hs ↦ .check_bind fun keys _ ↦ ?_
    exact .ok { hs with bindings := hs.bindings.store x keys hv }
  | add | subtract | multiply | divide => exact keeps_arithmetic h m _ _
  | negate =>
    refine .pop_bind h fun _ _ hs ↦ .check_bind fun w hw ↦ ?_
    exact .push hs (Value.distinctKeys_of_negate hw) _
  | compareEqual | compareNotEqual | compareLessThan | compareGreaterThan
  | compareLessThanOrEqual | compareGreaterThanOrEqual => exact keeps_compare h m _ _
  | toBoolean => exact .pop_bind h fun _ _ hs ↦ .push hs (.boolean _) _
  | jump target => exact .jump h _ _
  | jumpIfTrue target | jumpIfFalse target => exact keeps_branch h m _ _ _
  | call target =>
    intro t ht
    obtain ⟨-, -, rfl⟩ := call_eq_ok.1 ht
    exact { h with }
  | ret =>
    intro t ht
    obtain ⟨place, rest, -, rfl⟩ := ret_eq_ok.1 ht
    exact { h with }
  | callLibrary library method n => exact keeps_callLibrary hlibraries h _ library method n
  | halt => exact .ok h.complete

/-! ## Runs -/

/-- **The step lemma.** After a failure the operands that are left were there before. -/
theorem wellFormed_of_stepped (hprogram : m.program.DistinctKeys)
    (hlibraries : m.libraries.KeepsKeys) (h : s.WellFormed) (hstep : m.Stepped s t) :
    t.WellFormed := by
  have hpassed : s.passed.WellFormed := { h with }
  cases hstep with
  | ended fetched => exact { h with }
  | @done i t fetched executed =>
    have hop : i.op.DistinctKeys :=
      hprogram i (Array.mem_toList_iff.2 (Array.mem_of_getElem? fetched))
    exact keeps_exec hlibraries hop hpassed t executed
  | @failed i f fetched executed =>
    obtain ⟨k, hfailed⟩ := exists_failed_eq executed
    rw [hfailed]
    exact { hpassed.took k with }

/-- **The run lemma.** -/
theorem wellFormed_advance (hprogram : m.program.DistinctKeys) (hlibraries : m.libraries.KeepsKeys)
    (n : ℕ) : (m.advance n .initial).WellFormed :=
  advance_induction .initial
    (fun _ _ h _ hstep ↦ wellFormed_of_stepped hprogram hlibraries h hstep) n

end Machine

/-! ## Outcomes -/

/-- What a run leaves behind is kept as it was during the run. -/
structure Outcome.WellFormed (o : Outcome) : Prop where
  /-- Every array in the value has distinct keys. -/
  value : ∀ v, o.value = some v → v.DistinctKeys
  /-- The variables are well formed. -/
  bindings : o.bindings.WellFormed

theorem State.WellFormed.result {s : State} {o : Outcome} (h : s.WellFormed)
    (ho : s.result = .ok o) : o.WellFormed := by
  rw [State.result] at ho
  split at ho
  · cases ho
  · cases ho
    exact ⟨fun _ hv ↦ h.top? hv, h.bindings⟩

namespace Execution

/-- The outcome of a text is that of a run of the program in it. -/
theorem exists_run_of_ofText {settings : RunSettings} {detailed : Bool} {fuel : ℕ} {text : String}
    {x : Execution} {o : Outcome} (hx : ofText settings detailed fuel text = some x)
    (ho : x.result = .ok o) : ∃ p final, Program.load text = .ok p ∧
      (machine settings p).run fuel = some final ∧ final.result = .ok o := by
  rw [ofText] at hx
  split at hx
  · cases hx
    cases ho
  · rename_i p hp
    obtain ⟨y, hy, rfl⟩ := Option.map_eq_some_iff.1 hx
    rw [ofProgram] at hy
    split at hy
    · cases hy
      cases ho
    · obtain ⟨final, hfinal, rfl⟩ := Option.map_eq_some_iff.1 hy
      refine ⟨p, final, hp, hfinal, ?_⟩
      dsimp only at ho
      rw [ofFinal] at ho
      split at ho
      · rename_i outcome houtcome
        rw [houtcome, ← Except.ok.inj ho]
      · cases ho

/-- **The representation invariant.** Whatever text a program is loaded from, and however much it may
use: in every state of its run every array among the operands and in the variables has distinct
keys, at any depth, and each variable is there once, in the order of the bytes of the names. So it
is in what the run leaves behind. -/
theorem store_stays_well_formed (settings : RunSettings) (text : String) :
    (∀ p, Program.load text = .ok p → ∀ n,
      ((machine settings p).advance n .initial).WellFormed ∧
        ((machine settings p).advance n .initial).bindings.names.Nodup) ∧
    ∀ detailed fuel x o, ofText settings detailed fuel text = some x → x.result = .ok o →
      o.WellFormed ∧ o.bindings.names.Nodup := by
  have hreachable : ∀ p, Program.load text = .ok p → ∀ n,
      ((machine settings p).advance n .initial).WellFormed := fun p hp n ↦
    Machine.wellFormed_advance (Program.distinctKeys_of_load hp) Registry.keepsKeys_builtin n
  constructor
  · intro p hp n
    exact ⟨hreachable p hp n, (hreachable p hp n).bindings.nodup_names⟩
  · intro detailed fuel x o hx ho
    obtain ⟨p, final, hp, hrun, hfinal⟩ := exists_run_of_ofText hx ho
    obtain ⟨rfl, -⟩ := Machine.run_eq_some_iff.1 hrun
    have houtcome := (hreachable p hp fuel).result hfinal
    exact ⟨houtcome, houtcome.bindings.nodup_names⟩

/-- A program that stores an array in which one key is repeated, and another one inside it. -/
def repeatedKeys : String :=
  "\x7b\"instructions\":[" ++
    "\x7b\"op\":\x7b\"PushArray\":\x7b\"a\":\x7b\"Boolean\":true\x7d,\"a\":\x7b\"Array\":" ++
      "\x7b\"k\":\x7b\"String\":\"x\"\x7d,\"k\":\x7b\"String\":\"y\"\x7d\x7d\x7d\x7d\x7d\x7d," ++
    "\x7b\"op\":\x7b\"StoreVariable\":\"x\"\x7d\x7d]\x7d"

/-- The text is loaded and its program runs to its end, with the invariant all the way. Of each
repeated key the last value is left, in the array and in the one inside it. -/
theorem store_stays_well_formed_repeatedKeys :
    ∃ p x o, Program.load repeatedKeys = .ok p ∧ ofText {} false 3 repeatedKeys = some x ∧
      x.result = .ok o ∧
      o.bindings.get? "x" = some (.array [("a", .array [("k", .string "y")])]) ∧
      (∀ n, ((machine {} p).advance n .initial).WellFormed) ∧ o.WellFormed := by
  have hstored : ((ofText {} false 3 repeatedKeys).bind (·.result.toOption)).map
      (·.bindings.get? "x") = some (some (.array [("a", .array [("k", .string "y")])])) := by cbv
  obtain ⟨o, hends, hget⟩ := Option.map_eq_some_iff.1 hstored
  obtain ⟨x, hx, hok⟩ := Option.bind_eq_some_iff.1 hends
  have ho : x.result = .ok o := by
    cases hresult : x.result with
    | error e =>
      rw [hresult] at hok
      cases hok
    | ok o' =>
      rw [hresult] at hok
      exact congrArg Except.ok (Option.some.inj hok)
  obtain ⟨p, final, hp, -, -⟩ := exists_run_of_ofText hx ho
  obtain ⟨hreachable, houtcome⟩ := store_stays_well_formed {} repeatedKeys
  exact ⟨p, x, o, hp, hx, ho, hget, fun n ↦ (hreachable p hp n).1, (houtcome false 3 x o hx ho).1⟩

end Execution

end StackScript
