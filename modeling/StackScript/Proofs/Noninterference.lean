import StackScript.Proofs.Runs

/-!
# What a run does not depend on

Source ranges are there for messages and libraries for calls. A run does not look at the one except
to report a failure, nor at the libraries whose names its program does not mention: two programs
that differ in nothing else go through the same states, step by step, and report the same failure up
to its range.

## What an operation sees

`Machine.exec` is given the whole machine and uses little of it: the limits, the length of the
program where the operation names a target, and the library that it names. `Machine.AgreeOn op` says
that two machines are alike in that, and `Machine.exec_congr` that the operation then cannot tell
them apart. Programs of different lengths may agree on an operation, as long as its target lies
inside both or outside both.
-/

namespace StackScript

/-! ## Operations -/

namespace Machine

variable {m m' : Machine} {op : Op} {s t : State} {n : ℕ}

/-- The machines are alike in all that the operation can see of them. -/
structure AgreeOn (m m' : Machine) (op : Op) : Prop where
  /-- They allow the same. -/
  limits : m.limits = m'.limits
  /-- The target of the operation lies in both programs or in neither. -/
  target : ∀ target, op.target? = some target →
    (m.program.length < target ↔ m'.program.length < target)
  /-- The library that the operation names is the same, or in neither. -/
  library : ∀ library method n, op = .callLibrary library method n →
    m.libraries.get? library = m'.libraries.get? library

theorem jump_congr {length length' target : ℕ} (h : length < target ↔ length' < target)
    (s : State) : s.jump length target = s.jump length' target := by
  simp only [State.jump, h]

theorem branch_congr {target : ℕ} (h : m.program.length < target ↔ m'.program.length < target)
    (op : Op) (wanted : Bool) (s : State) :
    m.branch op wanted target s = m'.branch op wanted target s := by
  simp only [branch, jump_congr h]

theorem call_congr {target : ℕ} (hlimits : m.limits = m'.limits)
    (h : m.program.length < target ↔ m'.program.length < target) (s : State) :
    m.call target s = m'.call target s := by
  rw [call, call, hlimits, jump_congr h]

theorem callLibrary_congr {library : String} (hlimits : m.limits = m'.limits)
    (h : m.libraries.get? library = m'.libraries.get? library) (op : Op) (method : String) (n : ℕ)
    (s : State) : m.callLibrary op library method n s = m'.callLibrary op library method n s := by
  rw [callLibrary, callLibrary, hlimits, h]

/-- An operation does the same on machines that agree on it. -/
theorem exec_congr (h : m.AgreeOn m' op) (s : State) : m.exec op s = m'.exec op s := by
  cases op with
  | jump => exact jump_congr (h.target _ rfl) s
  | jumpIfTrue | jumpIfFalse => exact branch_congr (h.target _ rfl) _ _ s
  | call => exact call_congr h.limits (h.target _ rfl) s
  | callLibrary => exact callLibrary_congr h.limits (h.library _ _ _ rfl) _ _ _ s
  | add | subtract | multiply | divide =>
    simp only [exec, arithmetic, h.limits]
  | compareEqual | compareNotEqual | compareLessThan | compareGreaterThan
  | compareLessThanOrEqual | compareGreaterThanOrEqual =>
    simp only [exec, compare, h.limits]
  -- the rest sees the limits at most
  | _ => simp only [exec, h.limits]

/-- Where two machines fetch the same instruction and agree on it, they take the same step. -/
theorem step_congr (hfetch : m.program.fetch? s.pc = m'.program.fetch? s.pc)
    (h : ∀ i, m.program.fetch? s.pc = some i → m.AgreeOn m' i.op) : m.step s = m'.step s := by
  rw [step, step, ← hfetch]
  cases hi : m.program.fetch? s.pc with
  | none => rfl
  | some i =>
    dsimp only
    rw [exec_congr (h i hi)]

theorem advance_congr (h : ∀ s, m.step s = m'.step s) (n : ℕ) (s : State) :
    m.advance n s = m'.advance n s := by
  induction n generalizing s with
  | zero => rfl
  | succ n ih => rw [advance, advance, h, ih]

end Machine

/-! ## States up to ranges -/

/-- The same failure, possibly with another range. -/
def Diagnostic.Matches (d e : Diagnostic) : Prop :=
  d.kind = e.kind ∧ d.arguments = e.arguments

/-- The same status, possibly with another range. -/
inductive Status.Matches : Status → Status → Prop
  | running : Matches .running .running
  | completed : Matches .completed .completed
  | terminated {d e : Diagnostic} (h : d.Matches e) : Matches (.terminated d) (.terminated e)

namespace State

variable {s t : State}

/-- The two states are equal, but a failure may be reported with another range. -/
structure Matches (s t : State) : Prop where
  /-- Control is at the same place. -/
  pc : s.pc = t.pc
  /-- The operands are the same. -/
  stack : s.stack = t.stack
  /-- The same calls are open. -/
  calls : s.calls = t.calls
  /-- The variables are the same. -/
  bindings : s.bindings = t.bindings
  /-- The run has come as far, or failed alike. -/
  status : s.status.Matches t.status

namespace Matches

theorem refl (s : State) : s.Matches s where
  pc := rfl
  stack := rfl
  calls := rfl
  bindings := rfl
  status := by
    cases s.status with
    | running => exact .running
    | terminated d => exact .terminated ⟨rfl, rfl⟩
    | completed => exact .completed

theorem isRunning (h : s.Matches t) : s.isRunning = t.isRunning := by
  have hstatus := h.status
  rw [State.isRunning, State.isRunning]
  generalize s.status = a, t.status = b at hstatus
  cases hstatus <;> rfl

/-- Before a failure there is no range to differ in. -/
theorem eq_of_isRunning (h : s.Matches t) (hrun : s.isRunning = true) : s = t := by
  have hs := isRunning_iff.1 hrun
  have ht := isRunning_iff.1 (h.isRunning ▸ hrun)
  obtain ⟨hpc, hstack, hcalls, hbindings, -⟩ := h
  cases s
  cases t
  simp_all

theorem result_ok_iff (h : s.Matches t) {o : Outcome} :
    s.result = .ok o ↔ t.result = .ok o := by
  have hstatus := h.status
  rw [State.result, State.result, h.stack, h.bindings]
  generalize s.status = a, t.status = b at hstatus
  cases hstatus with
  | running | completed => exact Iff.rfl
  | terminated => exact iff_of_false (fun h ↦ by cases h) fun h ↦ by cases h

theorem result_error (h : s.Matches t) {d : Diagnostic} (hd : s.result = .error d) :
    ∃ range, t.result = .error { d with range := range } := by
  have hstatus := h.status
  rw [State.result] at hd ⊢
  generalize s.status = a, t.status = b at hstatus hd
  cases hstatus with
  | running | completed => cases hd
  | @terminated d' e hmatches =>
    obtain ⟨kind, range, arguments⟩ := e
    obtain rfl := Except.error.inj hd
    obtain ⟨rfl, rfl⟩ := hmatches
    exact ⟨range, rfl⟩

end Matches

end State

/-! ## Runs in lockstep -/

/-- The operations of the program, without their places in the source. -/
def Program.ops (p : Program) : List Op :=
  p.instructions.toList.map Instruction.op

theorem Program.map_op_fetch? (p : Program) (k : ℕ) :
    (p.fetch? k).map Instruction.op = p.ops[k]? := by
  rw [fetch?, ops, List.getElem?_map, Array.getElem?_toList]

namespace Machine

variable {m m' : Machine} {s t : State}

/-- The machines do the same operations and agree on each of them. -/
structure SameOps (m m' : Machine) : Prop where
  /-- The operations are the same, whatever their ranges. -/
  ops : m.program.ops = m'.program.ops
  /-- No operation sees a difference. -/
  agree : ∀ op ∈ m.program.ops, m.AgreeOn m' op

/-- **The step lemma.** A step from one state leads to states that differ in the range of a failure
at most. -/
theorem SameOps.step (h : m.SameOps m') (hrun : s.isRunning = true) :
    (m.step s).Matches (m'.step s) := by
  have hfetch : (m.program.fetch? s.pc).map Instruction.op =
      (m'.program.fetch? s.pc).map Instruction.op := by
    rw [Program.map_op_fetch?, Program.map_op_fetch?, h.ops]
  cases hi : m.program.fetch? s.pc with
  | none =>
    rw [hi, Option.map_none, eq_comm, Option.map_eq_none_iff] at hfetch
    rw [Machine.step, Machine.step, hi, hfetch]
    exact .refl _
  | some i =>
    rw [hi, Option.map_some, eq_comm, Option.map_eq_some_iff] at hfetch
    obtain ⟨j, hj, hop⟩ := hfetch
    have hmem : i.op ∈ m.program.ops := by
      apply List.mem_of_getElem? (i := s.pc)
      rw [← Program.map_op_fetch?, hi, Option.map_some]
    have hexec := exec_congr (h.agree i.op hmem) s.passed
    cases hresult : m.exec i.op s.passed with
    | ok u =>
      rw [step_of_ok hi hresult, step_of_ok hj (by rw [hop, ← hexec, hresult])]
      exact .refl u
    | error f =>
      rw [step_of_error hrun hi hresult, step_of_error hrun hj (by rw [hop, ← hexec, hresult])]
      exact ⟨rfl, rfl, rfl, rfl, .terminated ⟨rfl, rfl⟩⟩

/-- **The run lemma.** -/
theorem SameOps.advance (h : m.SameOps m') (hmatches : s.Matches t) (n : ℕ) :
    (m.advance n s).Matches (m'.advance n t) := by
  induction n generalizing s t with
  | zero => exact hmatches
  | succ n ih =>
    cases hrun : s.isRunning with
    | false =>
      have hended : t.isRunning = false := hmatches.isRunning ▸ hrun
      rw [advance_of_ended hrun, advance_of_ended hended]
      exact hmatches
    | true =>
      obtain rfl := hmatches.eq_of_isRunning hrun
      rw [advance_succ_of_isRunning hrun, advance_succ_of_isRunning hrun]
      exact ih (h.step hrun)

/-- **Ranges and unused libraries do not matter.** Take two programs with the same operations and two
registries that give the same library, or none, for each library that the program calls. Under the
same limits the two runs are after every number of steps in the same state, one ends when the other
does, they leave the same behind, and they report the same failure up to its range. -/
theorem run_ignores_ranges_and_unused_libraries (c : Limits) (p q : Program) (r r' : Registry)
    (hops : p.ops = q.ops)
    (hlibraries : ∀ library method n, Op.callLibrary library method n ∈ p.ops →
      r.get? library = r'.get? library) :
    (∀ n, ((Machine.mk p c r).advance n .initial).Matches
      ((Machine.mk q c r').advance n .initial)) ∧
    (∀ n, (Machine.mk p c r).run n = none ↔ (Machine.mk q c r').run n = none) ∧
    ∀ n s t, (Machine.mk p c r).run n = some s → (Machine.mk q c r').run n = some t →
      (∀ o, s.result = .ok o ↔ t.result = .ok o) ∧
      ∀ d, s.result = .error d → ∃ range, t.result = .error { d with range := range } := by
  have hlength : p.length = q.length := by
    have hlength := congrArg List.length hops
    rwa [Program.ops, Program.ops, List.length_map, List.length_map, Array.length_toList,
      Array.length_toList] at hlength
  have hsame : SameOps (Machine.mk p c r) (Machine.mk q c r') := by
    refine ⟨hops, fun op hop ↦ ⟨rfl, fun target _ ↦ by rw [hlength], ?_⟩⟩
    rintro library method n rfl
    exact hlibraries library method n hop
  have hmatches := hsame.advance (.refl .initial)
  refine ⟨hmatches, fun n ↦ ?_, fun n s t hs ht ↦ ?_⟩
  · rw [run_eq_none_iff, run_eq_none_iff, (hmatches n).isRunning]
  · have hst := hmatches n
    rw [(run_eq_some_iff.1 hs).1, (run_eq_some_iff.1 ht).1] at hst
    exact ⟨fun o ↦ hst.result_ok_iff, fun d ↦ hst.result_error⟩

/-- A library whose one method gives its argument back. -/
def echo : Library :=
  .ofMethods "Echo" [("Same", .unary fun a ↦ .ok (some a))]

/-- A program that turns the sign of a truth value that went through the library. -/
def signOfEcho (range : Range) : Program :=
  ⟨#[⟨.pushBoolean true, range⟩, ⟨.callLibrary "Echo" "Same" 1, range⟩, ⟨.negate, range⟩]⟩

/-- The program is written elsewhere and another library stands before the one that it calls. -/
theorem run_ignores_ranges_and_unused_libraries_signOfEcho :
    (signOfEcho {}).ops = (signOfEcho ⟨⟨2, 1⟩, ⟨2, 7⟩⟩).ops ∧
    ∃ s t, (Machine.mk (signOfEcho {}) {} [("Echo", echo)]).run 3 = some s ∧
      (Machine.mk (signOfEcho ⟨⟨2, 1⟩, ⟨2, 7⟩⟩) {}
        [("Other", .ofMethods "Other" []), ("Echo", echo)]).run 3 = some t ∧
      s.result = .error ⟨.booleanOperand, {}, ["-"]⟩ ∧
      ∃ range, t.result = .error ⟨.booleanOperand, range, ["-"]⟩ := by
  have hlibraries : ∀ library method n,
      Op.callLibrary library method n ∈ (signOfEcho {}).ops →
      Entries.get? [("Echo", echo)] library =
        Entries.get? [("Other", .ofMethods "Other" []), ("Echo", echo)] library := by
    intro library method n hmem
    have hcall : library = "Echo" ∧ method = "Same" ∧ n = 1 := by
      simpa [Program.ops, signOfEcho] using hmem
    rw [hcall.1]
    rfl
  obtain ⟨-, -, hrun⟩ := run_ignores_ranges_and_unused_libraries {} (signOfEcho {})
    (signOfEcho ⟨⟨2, 1⟩, ⟨2, 7⟩⟩) _ _ rfl hlibraries
  exact ⟨rfl, _, _, rfl, rfl, rfl, (hrun 3 _ _ rfl rfl).2 _ rfl⟩

end Machine

end StackScript
