import StackScript.Proofs.Runs

/-!
# Bounds on every reachable state

Whatever the program, the limits and the libraries are, a run never leaves the program, never holds
more operands or open calls than it may, and only ever remembers places that lie right behind a
call. Programs are not assumed to be valid.

## The invariant

The bounds only hold together. A return takes the program counter from the call stack, so that it
stays inside the program needs the clause on the remembered places; these in turn are program
counters at the time of a call. `Machine.WithinBounds` is the conjunction, and
`Machine.WithinBounds.of_effect` restores it after each kind of effect.
-/

namespace StackScript

namespace Machine

variable {m : Machine} {op : Op} {s t : State}

/-- A place in the program right behind a call. -/
structure ReturnPlace (m : Machine) (place : ℕ) : Prop where
  /-- There is an instruction before it. -/
  pos : 1 ≤ place
  /-- It lies in the program or at its end. -/
  le_length : place ≤ m.program.length
  /-- The instruction before it is a call. -/
  behind_call : ∃ i target, m.program.fetch? (place - 1) = some i ∧ i.op = .call target

/-- What no run ever exceeds. -/
structure WithinBounds (m : Machine) (s : State) : Prop where
  /-- The program counter points into the program or at its end. -/
  pc_le : s.pc ≤ m.program.length
  /-- There are no more operands than the limit allows. -/
  stack_le : s.stack.depth ≤ m.limits.stackSize
  /-- There are no more open calls than the limit allows. -/
  calls_le : s.calls.depth ≤ m.limits.callDepth
  /-- Every remembered place is one to return to. -/
  returnPlaces : ∀ place ∈ s.calls.items, m.ReturnPlace place

namespace WithinBounds

theorem initial (m : Machine) : m.WithinBounds .initial where
  pc_le := Nat.zero_le _
  stack_le := Nat.zero_le _
  calls_le := Nat.zero_le _
  returnPlaces := nofun

theorem stack_took_le (h : m.WithinBounds s) (n : ℕ) :
    (s.took n).stack.depth ≤ m.limits.stackSize := by
  rw [State.stack_took, Stack.depth_drop]
  have := h.stack_le
  omega

theorem took (h : m.WithinBounds s) (n : ℕ) : m.WithinBounds (s.took n) :=
  { h with stack_le := h.stack_took_le n }

/-- One case for each kind of effect. Only a call adds a place to return to, and it adds the
program counter, which the caller shows to be one. -/
theorem of_effect (h : m.WithinBounds s) (hcall : ∀ target, op = .call target → m.ReturnPlace s.pc)
    (heffect : m.Effect op s t) : m.WithinBounds t := by
  cases heffect with
  | take => exact h.took _
  | push v room => exact { h with stack_le := room }
  | store b => exact { h.took op.taken with }
  | jump target named inside => exact { h.took op.taken with pc_le := inside }
  | call target named inside room =>
    refine { h with pc_le := inside, calls_le := room, returnPlaces := ?_ }
    intro place hplace
    rcases List.mem_cons.1 hplace with rfl | hplace
    · exact hcall target named
    · exact h.returnPlaces place hplace
  | ret place rest named calls =>
    have hplace : m.ReturnPlace place := h.returnPlaces place (by simp [calls])
    have hdepth := h.calls_le
    rw [calls, Stack.depth_push] at hdepth
    have hrest : rest.depth ≤ m.limits.callDepth := by omega
    refine { h with pc_le := hplace.le_length, calls_le := hrest, returnPlaces := ?_ }
    intro place' hmem
    exact h.returnPlaces place' (by simp [calls, hmem])
  | halt named =>
    rw [State.complete]
    split
    · exact { h with }
    · exact h

theorem passed {i : Instruction} (h : m.WithinBounds s)
    (hfetch : m.program.fetch? s.pc = some i) : m.WithinBounds s.passed :=
  { h with pc_le := Program.lt_length_of_fetch? hfetch }

/-- **The step lemma.** The program counter is already behind the fetched instruction when this is
executed, so it is a place to return to exactly if that instruction is a call. -/
theorem of_stepped (h : m.WithinBounds s) (hstep : m.Stepped s t) : m.WithinBounds t := by
  cases hstep with
  | ended fetched => exact { h with }
  | @done i t fetched executed =>
    refine (h.passed fetched).of_effect ?_ (exec_effect executed)
    intro target hop
    exact ⟨Nat.le_add_left 1 _, Program.lt_length_of_fetch? fetched, i, target, fetched, hop⟩
  | @failed i f fetched executed =>
    obtain ⟨k, hfailed⟩ := exists_failed_eq executed
    have hstack := (h.passed fetched).stack_took_le k
    rw [hfailed]
    exact { h.passed fetched with stack_le := hstack }

end WithinBounds

/-- **The run lemma.** -/
theorem withinBounds_advance (m : Machine) (n : ℕ) : m.WithinBounds (m.advance n .initial) :=
  advance_induction (.initial m) (fun _ _ h _ hstep ↦ h.of_stepped hstep) n

/-- In every state of every run the program counter, the operands and the open calls are within
their bounds, and every remembered place lies right behind a call. Hence a fetch fails only at the
end of the program, and the program counter of a fetched instruction can be moved past it in any
machine word, whatever the number `size` of its values, that can hold the length of the program. -/
theorem run_stays_within_bounds (m : Machine) (n : ℕ) :
    m.WithinBounds (m.advance n .initial) ∧
      (m.program.fetch? (m.advance n .initial).pc = none ↔
        (m.advance n .initial).pc = m.program.length) ∧
      ∀ size, m.program.length < size → (m.program.fetch? (m.advance n .initial).pc).isSome →
        ((m.advance n .initial).pc + 1) % size = (m.advance n .initial).pc + 1 := by
  have hbounds := m.withinBounds_advance n
  refine ⟨hbounds, ?_, ?_⟩
  · rw [Program.fetch?_eq_none_iff]
    exact ⟨fun hle ↦ Nat.le_antisymm hbounds.pc_le hle, fun heq ↦ Nat.le_of_eq heq.symm⟩
  · intro size hsize hsome
    obtain ⟨i, hfetch⟩ := Option.isSome_iff_exists.1 hsome
    have hlt := Program.lt_length_of_fetch? hfetch
    exact Nat.mod_eq_of_lt (by omega)

end Machine

end StackScript
