import Mathlib.Data.Nat.Digits.Defs
import Mathlib.Tactic.Ring
import StackScript.Proofs.Bounds

/-!
# Programs that jump only forward end

A program whose jumps all go forward ends under any limits and with any libraries, although its
calls may go anywhere: backward, into each other, or to themselves.

## The potential

Calls and returns move the program counter back without limit, so no counter of the program counter
alone decreases. Read instead the places after the open calls, from the outermost in, followed by
the program counter, as one sequence.

- An instruction that stays in its subroutine moves the last entry forward.
- A call moves the last entry forward, to the place after the call, and appends a new one.
- A return removes the last entry.

So the sequence grows in the lexicographic order in which a missing entry counts as the greatest
one, and since the call stack is bounded the sequences have bounded length.
`Machine.potential` is what the sequence lacks of the greatest one, as a number: an entry
contributes how far it is from the end of the program, as a digit in a base that exceeds all these
distances, and the outermost entry has the highest position. This gives the number of steps as well.
-/

namespace StackScript

/-- Every jump of the program, taken always or on a condition, goes forward. -/
def Program.JumpsForward (p : Program) : Prop :=
  ∀ k i target, p.fetch? k = some i → i.op.jump? = some target → k < target

namespace Machine

variable {m : Machine} {s t : State} {place : ℕ}

/-! ## Digits -/

/-- How far a place is from behind the end of the program. -/
def distance (m : Machine) (place : ℕ) : ℕ :=
  m.program.length + 1 - place

/-- A base in which every distance is a digit. -/
def base (m : Machine) : ℕ :=
  m.program.length + 2

/-- The distances of the program counter and of the places after the open calls as one number, the
outermost call in front, with room for the calls that may still be opened. -/
def potential (m : Machine) (s : State) : ℕ :=
  m.base ^ (m.limits.callDepth - s.calls.depth) *
    Nat.ofDigits m.base (m.distance s.pc :: s.calls.items.map m.distance)

theorem base_pos (m : Machine) : 0 < m.base := Nat.succ_pos _

theorem distance_pos (h : place ≤ m.program.length) : 0 < m.distance place := by
  rw [distance]
  omega

theorem distance_lt_base (m : Machine) (place : ℕ) : m.distance place < m.base := by
  rw [distance, base]
  omega

theorem distance_lt_distance {place' : ℕ} (hlt : place < place')
    (hle : place' ≤ m.program.length) : m.distance place' < m.distance place := by
  rw [distance, distance]
  omega

/-! ## The three moves -/

theorem potential_pos (h : s.pc ≤ m.program.length) : 0 < m.potential s := by
  rw [potential, Nat.ofDigits_cons]
  exact Nat.mul_pos (Nat.pow_pos m.base_pos) (Nat.add_pos_left (distance_pos h) _)

/-- Going on in the same subroutine lowers the last digit. -/
theorem potential_lt_of_forward (hcalls : t.calls = s.calls) (hlt : s.pc < t.pc)
    (hle : t.pc ≤ m.program.length) : m.potential t < m.potential s := by
  have hdigit := distance_lt_distance hlt hle
  rw [potential, potential, hcalls, Nat.ofDigits_cons, Nat.ofDigits_cons]
  exact Nat.mul_lt_mul_of_pos_left (Nat.add_lt_add_right hdigit _) (Nat.pow_pos m.base_pos)

/-- A call lowers the last digit and appends one, which is worth less than the position it
follows. -/
theorem potential_lt_of_call (hcalls : t.calls = s.calls.push place) (hlt : s.pc < place)
    (hle : place ≤ m.program.length) (hroom : s.calls.depth < m.limits.callDepth) :
    m.potential t < m.potential s := by
  have hdigit : m.distance place + 1 ≤ m.distance s.pc := distance_lt_distance hlt hle
  have hlast := m.distance_lt_base t.pc
  obtain ⟨room, hdepth⟩ : ∃ room, m.limits.callDepth - s.calls.depth = room + 1 :=
    ⟨m.limits.callDepth - s.calls.depth - 1, by omega⟩
  have hdepth' : m.limits.callDepth - (s.calls.depth + 1) = room := by omega
  rw [potential, potential, hcalls, Stack.depth_push, Stack.items_push, hdepth, hdepth',
    List.map_cons, Nat.ofDigits_cons, Nat.ofDigits_cons, Nat.ofDigits_cons, Nat.pow_succ,
    Nat.mul_assoc]
  refine Nat.mul_lt_mul_of_pos_left ?_ (Nat.pow_pos m.base_pos)
  calc m.distance t.pc + m.base * (m.distance place + m.base * _)
      < m.base + m.base * (m.distance place + m.base * _) := Nat.add_lt_add_right hlast _
    _ = m.base * (m.distance place + 1 + m.base * _) := by ring
    _ ≤ m.base * (m.distance s.pc + m.base * _) :=
      Nat.mul_le_mul_left _ (Nat.add_le_add_right hdigit _)

/-- A return drops the last digit, which was not zero. -/
theorem potential_lt_of_return (hcalls : s.calls = t.calls.push t.pc)
    (hle : s.pc ≤ m.program.length) (hdepth : s.calls.depth ≤ m.limits.callDepth) :
    m.potential t < m.potential s := by
  have hdigit := distance_pos hle
  rw [hcalls, Stack.depth_push] at hdepth
  have hroom : m.limits.callDepth - t.calls.depth =
      m.limits.callDepth - (t.calls.depth + 1) + 1 := by omega
  rw [potential, potential, hcalls, Stack.depth_push, Stack.items_push, hroom, List.map_cons,
    Nat.pow_succ, Nat.mul_assoc]
  refine Nat.mul_lt_mul_of_pos_left ?_ (Nat.pow_pos m.base_pos)
  change m.base * _ < m.distance s.pc + m.base * _
  exact Nat.lt_add_of_pos_left hdigit

/-! ## Steps and runs -/

/-- **The step lemma.** A step that does not end the run lowers the potential. -/
theorem potential_lt_of_stepped (hforward : m.program.JumpsForward) (h : m.WithinBounds s)
    (hstep : m.Stepped s t) (hrun : t.isRunning = true) : m.potential t < m.potential s := by
  have hbounds := h.of_stepped hstep
  cases hstep with
  | ended fetched => cases hrun
  | failed fetched executed => cases hrun
  | @done i t fetched executed =>
    have hlt := Program.lt_length_of_fetch? fetched
    -- the program counter of `s.passed` is already one further than that of `s`
    have hnext : s.pc < s.passed.pc := Nat.lt_succ_self s.pc
    cases exec_effect executed with
    | take | push | store => exact potential_lt_of_forward rfl hnext hbounds.pc_le
    | jump target named inside =>
      exact potential_lt_of_forward rfl (hforward s.pc i target fetched named) inside
    | call target named inside room => exact potential_lt_of_call rfl hnext hlt room
    | ret place rest named calls => exact potential_lt_of_return calls h.pc_le h.calls_le
    | halt named =>
      rw [State.complete] at hrun
      split at hrun
      · cases hrun
      · contradiction

/-- **The run lemma.** As many steps as the potential says are enough. -/
theorem isRunning_advance_of_potential_le (hforward : m.program.JumpsForward) {n : ℕ}
    (h : m.WithinBounds s) (hn : m.potential s ≤ n) : (m.advance n s).isRunning = false := by
  induction n generalizing s with
  | zero =>
    have := potential_pos h.pc_le
    omega
  | succ n ih =>
    cases hrun : s.isRunning with
    | false => rw [advance_of_ended hrun, hrun]
    | true =>
      rw [advance_succ_of_isRunning hrun]
      have hstep : m.Stepped s (m.step s) := stepped hrun
      cases hnext : (m.step s).isRunning with
      | false => rw [advance_of_ended hnext, hnext]
      | true =>
        have := potential_lt_of_stepped hforward h hstep hnext
        exact ih (h.of_stepped hstep) (by omega)

theorem potential_initial (m : Machine) :
    m.potential .initial = (m.program.length + 2) ^ m.limits.callDepth * (m.program.length + 1) :=
  congrArg _ Nat.ofDigits_singleton

/-- **Forward jumps end.** If all jumps of a program go forward, its run ends, completed or with a
failure, within a number of steps that depends only on the length of the program and on how many
calls may be open. -/
theorem run_ends_of_jumpsForward (m : Machine) (hforward : m.program.JumpsForward) :
    ∃ s, m.run ((m.program.length + 2) ^ m.limits.callDepth * (m.program.length + 1)) = some s ∧
      (s.status = .completed ∨ ∃ d, s.status = .terminated d) := by
  have hended := isRunning_advance_of_potential_le hforward (.initial m) m.potential_initial.le
  exact ⟨_, run_eq_some_iff.2 ⟨rfl, hended⟩, State.isRunning_eq_false_iff.1 hended⟩

/-- A subroutine that calls itself behind a conditional jump, with room for two calls. -/
theorem run_ends_of_jumpsForward_recursion :
    Program.JumpsForward ⟨#[⟨.pushBoolean false, {}⟩, ⟨.jumpIfTrue 3, {}⟩, ⟨.call 0, {}⟩]⟩ ∧
    ∃ s, (Machine.mk ⟨#[⟨.pushBoolean false, {}⟩, ⟨.jumpIfTrue 3, {}⟩, ⟨.call 0, {}⟩]⟩
        ⟨0, 4, 2⟩ []).run 100 = some s ∧
      (s.status = .completed ∨ ∃ d, s.status = .terminated d) := by
  have hforward : Program.JumpsForward
      ⟨#[⟨.pushBoolean false, {}⟩, ⟨.jumpIfTrue 3, {}⟩, ⟨.call 0, {}⟩]⟩ := by
    intro k i target hfetch hjump
    match k, hfetch with
    | 0, hfetch => cases hfetch; cases hjump
    | 1, hfetch => cases hfetch; cases hjump; decide
    | 2, hfetch => cases hfetch; cases hjump
    | k + 3, hfetch => cases hfetch
  exact ⟨hforward, run_ends_of_jumpsForward _ hforward⟩

end Machine

end StackScript
