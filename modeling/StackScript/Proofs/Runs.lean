import StackScript.Machine.Run
import StackScript.Proofs.Operations

/-!
# Steps and runs

`Machine.step` is total and `Machine.advance` counts steps, so a run is the sequence of the states
`m.advance n .initial`. This file has the three things every argument about runs starts from.

- **One step** goes in one of three ways, `Machine.Stepped`: there is no instruction left, the
  fetched one succeeds, or it fails.
- **Counting**: `advance` splits at any point, and a run that has ended stays where it is, so a run
  that ends has exactly one last step.
- **Invariants**: what a step keeps, every state of the run has.
-/

namespace StackScript

/-! ## Fetching -/

namespace Program

variable {p : Program} {k : ℕ} {i : Instruction}

theorem fetch?_eq_none_iff : p.fetch? k = none ↔ p.length ≤ k := by
  rw [fetch?, length, Array.getElem?_eq_none_iff]

theorem lt_length_of_fetch? (h : p.fetch? k = some i) : k < p.length := by
  rw [fetch?, Array.getElem?_eq_some_iff] at h
  exact h.1

end Program

/-! ## Status -/

namespace State

variable {s : State}

theorem isRunning_iff : s.isRunning = true ↔ s.status = .running := by
  rw [isRunning]
  split
  · rename_i h
    rw [h]
    exact ⟨fun _ ↦ rfl, fun _ ↦ rfl⟩
  · rename_i h
    exact ⟨nofun, fun hs ↦ absurd hs h⟩

theorem isRunning_eq_false_iff : s.isRunning = false ↔
    s.status = .completed ∨ ∃ d, s.status = .terminated d := by
  rw [isRunning]
  cases s.status <;> simp

theorem complete_of_isRunning (h : s.isRunning = true) :
    s.complete = { s with status := .completed } := by
  rw [complete, if_pos h]

theorem isRunning_initial : initial.isRunning = true := rfl

end State

namespace Machine

variable {m : Machine} {s t : State} {n k : ℕ}

/-! ## One step -/

/-- The state in which the failure of an instruction leaves the machine. -/
def failed (i : Instruction) (f : Fault) : State :=
  { f.state with status := .terminated (f.failure.diagnose i.range) }

/-- The ways in which a step of a run that goes on can go. -/
inductive Stepped (m : Machine) (s : State) : State → Prop
  /-- There was no instruction left. -/
  | ended (fetched : m.program.fetch? s.pc = none) : Stepped m s { s with status := .completed }
  /-- The fetched instruction succeeded. -/
  | done {i : Instruction} {t : State} (fetched : m.program.fetch? s.pc = some i)
      (executed : m.exec i.op s.passed = .ok t) : Stepped m s t
  /-- The fetched instruction failed. -/
  | failed {i : Instruction} {f : Fault} (fetched : m.program.fetch? s.pc = some i)
      (executed : m.exec i.op s.passed = .error f) : Stepped m s (failed i f)

/-- The failure of an instruction leaves a bottom part of the operands and touches nothing else but
the status. -/
theorem exists_failed_eq {i : Instruction} {f : Fault}
    (hexec : m.exec i.op s.passed = .error f) : ∃ k, failed i f =
      { s.passed.took k with status := .terminated (f.failure.diagnose i.range) } := by
  obtain ⟨k, hleft⟩ := exec_fault hexec
  exact ⟨k, by rw [failed, hleft]⟩

theorem step_of_ok {i : Instruction} (hfetch : m.program.fetch? s.pc = some i)
    (hexec : m.exec i.op s.passed = .ok t) : m.step s = t := by
  rw [State.passed] at hexec
  rw [step, hfetch]
  dsimp only
  rw [hexec, settle]

theorem step_of_error {i : Instruction} {f : Fault} (hrun : s.isRunning = true)
    (hfetch : m.program.fetch? s.pc = some i) (hexec : m.exec i.op s.passed = .error f) :
    m.step s = failed i f := by
  -- only a run that goes on can be terminated, and the failed operation has not ended this one
  obtain ⟨k, hleft⟩ := exec_fault hexec
  have hrunning : f.state.isRunning = true := by
    rw [hleft]
    exact hrun
  rw [State.passed] at hexec
  rw [step, hfetch]
  dsimp only
  rw [hexec, settle, State.terminate, if_pos hrunning, failed]

/-- **Inversion of a step.** -/
theorem stepped (hrun : s.isRunning = true) : m.Stepped s (m.step s) := by
  cases hfetch : m.program.fetch? s.pc with
  | none =>
    rw [step, hfetch]
    dsimp only
    rw [State.complete_of_isRunning hrun]
    exact .ended hfetch
  | some i =>
    cases hexec : m.exec i.op s.passed with
    | ok t =>
      rw [step_of_ok hfetch hexec]
      exact .done hfetch hexec
    | error f =>
      rw [step_of_error hrun hfetch hexec]
      exact .failed hfetch hexec

/-! ## Counting steps -/

theorem advance_succ_of_isRunning (h : s.isRunning = true) :
    m.advance (n + 1) s = m.advance n (m.step s) := by
  rw [advance, if_pos h]

/-- A run that has ended stays where it is. -/
theorem advance_of_ended (h : s.isRunning = false) : m.advance n s = s := by
  cases n with
  | zero => rfl
  | succ n => rw [advance, h, if_neg Bool.false_ne_true]

theorem advance_add (m : Machine) (n k : ℕ) (s : State) :
    m.advance (n + k) s = m.advance k (m.advance n s) := by
  induction n generalizing s with
  | zero => rw [Nat.zero_add, advance]
  | succ n ih =>
    cases h : s.isRunning with
    | true =>
      rw [Nat.add_right_comm, advance_succ_of_isRunning h, advance_succ_of_isRunning h, ih]
    | false => rw [advance_of_ended h, advance_of_ended h, advance_of_ended h]

/-- The last step seen from the state before it. -/
theorem advance_succ (h : (m.advance n s).isRunning = true) :
    m.advance (n + 1) s = m.step (m.advance n s) := by
  rw [advance_add, advance_succ_of_isRunning h, advance]

/-- A run that goes on after `k` steps went on after fewer. -/
theorem isRunning_advance_of_le (hnk : n ≤ k) (h : (m.advance k s).isRunning = true) :
    (m.advance n s).isRunning = true := by
  obtain ⟨j, rfl⟩ := Nat.exists_eq_add_of_le hnk
  cases hended : (m.advance n s).isRunning with
  | true => rfl
  | false =>
    rw [advance_add, advance_of_ended hended, hended] at h
    exact h

theorem run_eq_some_iff : m.run n = some s ↔
    m.advance n .initial = s ∧ s.isRunning = false := by
  rw [run]
  split
  · rename_i h
    refine ⟨nofun, ?_⟩
    rintro ⟨rfl, hended⟩
    exact absurd h (by rw [hended]; exact Bool.false_ne_true)
  · rename_i h
    rw [Bool.not_eq_true] at h
    rw [Option.some_inj]
    exact ⟨fun heq ↦ ⟨heq, heq ▸ h⟩, fun heq ↦ heq.1⟩

theorem run_eq_none_iff : m.run n = none ↔ (m.advance n .initial).isRunning = true := by
  rw [run]
  split
  · rename_i h
    exact ⟨fun _ ↦ h, fun _ ↦ rfl⟩
  · rename_i h
    exact ⟨nofun, fun h' ↦ absurd h' h⟩

/-- A run has one last step. -/
theorem exists_last_step (h : m.run n = some s) :
    ∃ k, (m.advance k .initial).isRunning = true ∧ m.advance (k + 1) .initial = s := by
  obtain ⟨rfl, hended⟩ := run_eq_some_iff.1 h
  induction n with
  | zero => exact absurd State.isRunning_initial (Bool.eq_false_iff.1 hended)
  | succ n ih =>
    cases hrun : (m.advance n .initial).isRunning with
    | true => exact ⟨n, hrun, rfl⟩
    | false =>
      obtain ⟨k, hk, heq⟩ := ih (run_eq_some_iff.2 ⟨rfl, hrun⟩) hrun
      refine ⟨k, hk, heq.trans ?_⟩
      rw [advance_add, advance_of_ended hrun]

theorem last_step_unique {j : ℕ} (hj : (m.advance j s).isRunning = true)
    (hj' : (m.advance (j + 1) s).isRunning = false) (hk : (m.advance k s).isRunning = true)
    (hk' : (m.advance (k + 1) s).isRunning = false) : j = k := by
  rw [Bool.eq_false_iff] at hj' hk'
  rcases Nat.lt_trichotomy j k with hlt | heq | hlt
  · exact absurd (isRunning_advance_of_le hlt hk) hj'
  · exact heq
  · exact absurd (isRunning_advance_of_le hlt hj) hk'

/-! ## Invariants -/

/-- **Run induction.** What holds at the start and is kept by every step of a run that goes on holds
after any number of steps. -/
theorem advance_induction {P : State → Prop} (hstart : P s)
    (hstep : ∀ t u, P t → t.isRunning = true → m.Stepped t u → P u) (n : ℕ) :
    P (m.advance n s) := by
  induction n generalizing s with
  | zero => exact hstart
  | succ n ih =>
    cases hrun : s.isRunning with
    | true =>
      rw [advance_succ_of_isRunning hrun]
      exact ih (hstep s _ hstart hrun (stepped hrun))
    | false =>
      rw [advance_of_ended hrun]
      exact hstart

end Machine

end StackScript
