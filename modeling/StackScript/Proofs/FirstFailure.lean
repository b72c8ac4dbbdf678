import StackScript.Proofs.Runs

/-!
# The first failure ends the run

A run reports the first instruction that fails and nothing after it. What the failing instruction
leaves behind is the state before it, with the program counter one further and some operands taken
from the top of the stack: the variables and the open calls are untouched, so the culprit can be
found and looked at. A run that reports no failure has met none.

## Where the failure is

A run has one last step, and a failure ends the run, so a failing instruction is dispatched in the
last step or not at all. `Machine.exists_last_step` gives that step and `Machine.last_step_unique`
says that there is only one; what remains is to look at the three ways in which it can go.
-/

namespace StackScript

namespace Machine

variable {m : Machine} {op : Op} {s t : State} {n : ℕ} {d : Diagnostic}

/-- The instruction that the machine dispatches in a state. -/
def dispatched? (m : Machine) (s : State) : Option Instruction :=
  if s.isRunning then m.program.fetch? s.pc else none

/-- The machine dispatches an instruction in the state, and this fails. -/
def Fails (m : Machine) (s : State) : Prop :=
  ∃ i f, m.dispatched? s = some i ∧ m.exec i.op s.passed = .error f

/-! ## Dispatching -/

theorem dispatched?_of_isRunning (h : s.isRunning = true) :
    m.dispatched? s = m.program.fetch? s.pc := by
  rw [dispatched?, if_pos h]

theorem dispatched?_of_ended (h : s.isRunning = false) : m.dispatched? s = none := by
  rw [dispatched?, h, if_neg Bool.false_ne_true]

theorem Fails.isRunning (h : m.Fails s) : s.isRunning = true := by
  obtain ⟨i, f, hdispatched, -⟩ := h
  cases hrun : s.isRunning with
  | true => rfl
  | false =>
    rw [dispatched?_of_ended hrun] at hdispatched
    cases hdispatched

/-- A failure ends the run. -/
theorem Fails.status_step (h : m.Fails s) : ∃ d, (m.step s).status = .terminated d := by
  have hrun := h.isRunning
  obtain ⟨i, f, hdispatched, hexec⟩ := h
  rw [dispatched?_of_isRunning hrun] at hdispatched
  rw [step_of_error hrun hdispatched hexec]
  exact ⟨_, rfl⟩

/-- Only failures terminate a run: success lets it go on or completes it. -/
theorem Effect.status (h : m.Effect op s t) : t.status = s.status ∨ t.status = .completed := by
  cases h with
  | halt named =>
    rw [State.complete]
    split
    · exact .inr rfl
    · exact .inl rfl
  | take | push | store | jump | call | ret => exact .inl rfl

/-! ## The last step -/

/-- What the failure of the instruction dispatched in `s` leaves behind. -/
structure FailsInto (m : Machine) (s : State) (d : Diagnostic) (t : State) : Prop where
  /-- The diagnostic is that of the failed instruction, which lies right before the program
  counter. -/
  culprit : ∃ i f, m.dispatched? s = some i ∧ m.exec i.op s.passed = .error f ∧
    m.program.fetch? (t.pc - 1) = some i ∧ d = f.failure.diagnose i.range
  /-- The program counter is past the instruction. -/
  pc : t.pc = s.pc + 1
  /-- The run was terminated with the diagnostic. -/
  status : t.status = .terminated d
  /-- No variable changed. -/
  bindings : t.bindings = s.bindings
  /-- No call was opened or closed. -/
  calls : t.calls = s.calls
  /-- The operands that are left are a bottom part of those that were there. -/
  stack : t.stack.toList <+: s.stack.toList

/-- A step that terminates the run with a diagnostic is the failure of its instruction. -/
theorem failsInto_of_stepped (hrun : s.isRunning = true) (hstep : m.Stepped s t)
    (hstatus : t.status = .terminated d) : m.FailsInto s d t := by
  cases hstep with
  | ended fetched => cases hstatus
  | done fetched executed =>
    have hrunning : s.passed.status = .running := State.isRunning_iff.1 hrun
    rcases (exec_effect executed).status with heq | heq
    · rw [heq, hrunning] at hstatus
      cases hstatus
    · rw [heq] at hstatus
      cases hstatus
  | @failed i f fetched executed =>
    obtain rfl := Status.terminated.inj hstatus
    -- a fault may carry any state; that only operands are missing from it is `exec_fault`
    obtain ⟨k, hfailed⟩ := exists_failed_eq executed
    have hpc : (failed i f).pc = s.pc + 1 := by rw [hfailed, State.took, State.passed]
    have hculprit : m.program.fetch? ((failed i f).pc - 1) = some i := by
      rw [hpc, Nat.add_sub_cancel]
      exact fetched
    exact
      { culprit := ⟨i, f, (dispatched?_of_isRunning hrun).trans fetched, executed, hculprit, rfl⟩
        pc := hpc
        status := rfl
        bindings := by rw [hfailed, State.took, State.passed]
        calls := by rw [hfailed, State.took, State.passed]
        stack := by
          rw [hfailed]
          exact Stack.toList_drop_prefix s.stack k }

/-- A failure anywhere in a run is in the last step of the run. -/
theorem eq_last_step_of_fails {j k : ℕ} (hk : (m.advance k .initial).isRunning = true)
    (hk' : (m.advance (k + 1) .initial).isRunning = false) (h : m.Fails (m.advance j .initial)) :
    j = k := by
  have hended : (m.advance (j + 1) .initial).isRunning = false := by
    rw [advance_succ h.isRunning]
    exact State.isRunning_eq_false_iff.2 (.inr h.status_step)
  exact last_step_unique h.isRunning hended hk hk'

/-! ## Results -/

theorem status_of_result_error (h : s.result = .error d) : s.status = .terminated d := by
  rw [State.result] at h
  split at h
  · rename_i d' hstatus
    rw [hstatus, Except.error.inj h]
  · cases h

theorem status_of_result_ok {o : Outcome} (hended : s.isRunning = false)
    (h : s.result = .ok o) : s.status = .completed := by
  rcases State.isRunning_eq_false_iff.1 hended with hstatus | ⟨d, hstatus⟩
  · exact hstatus
  · rw [State.result, hstatus] at h
    cases h

/-- A reported failure is that of the instruction dispatched last. -/
theorem exists_failsInto (h : m.run n = some s) (hd : s.result = .error d) :
    ∃ k, m.advance (k + 1) .initial = s ∧ m.FailsInto (m.advance k .initial) d s := by
  obtain ⟨k, hrun, hlast⟩ := exists_last_step h
  refine ⟨k, hlast, ?_⟩
  have hstep := stepped (m := m) hrun
  rw [← advance_succ hrun, hlast] at hstep
  exact failsInto_of_stepped hrun hstep (status_of_result_error hd)

/-- **The first failure wins.** If a run reports a failure, then its status is that failure, the
instruction before the program counter has the reported range, and that instruction was dispatched
last, is the only one that failed, and left everything but operands from the top of the stack as it
was. If a run reports no failure, then it completed and no instruction failed. -/
theorem run_reports_first_failure (m : Machine) (n : ℕ) (s : State) (h : m.run n = some s) :
    (∀ d, s.result = .error d →
      s.status = .terminated d ∧ 1 ≤ s.pc ∧
      (m.program.fetch? (s.pc - 1)).map Instruction.range = some d.range ∧
      ∃ k, m.advance (k + 1) .initial = s ∧ m.FailsInto (m.advance k .initial) d s ∧
        (∀ j, k < j → m.dispatched? (m.advance j .initial) = none) ∧
        ∀ j, m.Fails (m.advance j .initial) ↔ j = k) ∧
    ∀ o, s.result = .ok o → s.status = .completed ∧ ∀ j, ¬m.Fails (m.advance j .initial) := by
  have hended := (run_eq_some_iff.1 h).2
  obtain ⟨k, hrun, hlast⟩ := exists_last_step h
  have hlast' : (m.advance (k + 1) .initial).isRunning = false := by rw [hlast, hended]
  have hstepped : m.Stepped (m.advance k .initial) s := by
    rw [← hlast, advance_succ hrun]
    exact stepped hrun
  constructor
  · intro d hd
    have hstatus := status_of_result_error hd
    have hfails := failsInto_of_stepped hrun hstepped hstatus
    obtain ⟨i, f, hdispatched, hexec, hfetch, hdiagnose⟩ := hfails.culprit
    refine ⟨hstatus, ?_, ?_, k, hlast, hfails, ?_, ?_⟩
    · rw [hfails.pc]
      exact Nat.le_add_left 1 _
    · rw [hfetch, hdiagnose]
      rfl
    · intro j hj
      obtain ⟨e, rfl⟩ := Nat.exists_eq_add_of_le hj
      rw [advance_add, advance_of_ended hlast']
      exact dispatched?_of_ended hlast'
    · intro j
      refine ⟨eq_last_step_of_fails hrun hlast', ?_⟩
      rintro rfl
      exact ⟨i, f, hdispatched, hexec⟩
  · intro o ho
    have hstatus := status_of_result_ok hended ho
    refine ⟨hstatus, fun j hj ↦ ?_⟩
    -- a failure would be the last step, and that one has completed the run
    obtain rfl := eq_last_step_of_fails hrun hlast' hj
    obtain ⟨d, hd⟩ := hj.status_step
    rw [← advance_succ hrun, hlast, hstatus] at hd
    cases hd

/-- A machine that is asked to turn the sign of a truth value. -/
def signOfTruth : Machine where
  program := ⟨#[⟨.pushBoolean true, ⟨⟨1, 1⟩, ⟨1, 5⟩⟩⟩, ⟨.duplicate, ⟨⟨1, 6⟩, ⟨1, 9⟩⟩⟩,
    ⟨.negate, ⟨⟨2, 1⟩, ⟨2, 7⟩⟩⟩, ⟨.halt, {}⟩]⟩
  libraries := []

/-- The failed negation has taken its operand and left the other one. -/
theorem run_reports_first_failure_signOfTruth :
    ∃ s d, signOfTruth.run 3 = some s ∧ s.result = .error d ∧
      d = ⟨.booleanOperand, ⟨⟨2, 1⟩, ⟨2, 7⟩⟩, ["-"]⟩ ∧
      s.pc = 3 ∧ s.stack = Stack.empty.push (.boolean true) ∧
      ∃ k, signOfTruth.FailsInto (signOfTruth.advance k .initial) d s ∧
        ∀ j, signOfTruth.Fails (signOfTruth.advance j .initial) ↔ j = k := by
  refine ⟨_, _, rfl, rfl, rfl, rfl, rfl, ?_⟩
  obtain ⟨-, -, -, k, -, hfails, -, honly⟩ :=
    (run_reports_first_failure signOfTruth 3 _ rfl).1 _ rfl
  exact ⟨k, hfails, honly⟩

end Machine

end StackScript
