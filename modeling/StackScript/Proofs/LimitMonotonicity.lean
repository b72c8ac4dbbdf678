import StackScript.Proofs.Runs

/-!
# Raising the limits

The limits of a run matter only to runs that meet them. If a run ends, and not because the operand
stack or the call stack was full, then it ends in the same state under any larger limits; and if it
goes on forever, it does so under larger limits too.

## The simulation

Two runs of one program under different limits go in lockstep until the smaller limits are met. The
relation between the two is therefore not one on states but on results: `AgreesUnlessFull` says that
two computations from the same state are equal or that the first one has just overflowed. It is
closed under sequencing, which takes care of operands that were popped before a push overflows, and
of calls, where the depth is checked before the target.
-/

namespace StackScript

/-- The kinds of failure that report a limit. -/
def Diagnostic.Kind.IsOverflow (kind : Kind) : Prop :=
  kind = .stackOverflow ∨ kind = .callOverflow

/-- The run was ended by a limit. -/
def State.Overflowed (s : State) : Prop :=
  ∃ d, s.status = .terminated d ∧ d.kind.IsOverflow

theorem State.Overflowed.isRunning {s : State} (h : s.Overflowed) : s.isRunning = false := by
  obtain ⟨d, hd, -⟩ := h
  exact State.isRunning_eq_false_iff.2 (.inr ⟨d, hd⟩)

theorem State.Overflowed.result {s : State} (h : s.Overflowed) :
    ∃ d, s.result = .error d ∧ d.kind.IsOverflow := by
  obtain ⟨d, hd, hkind⟩ := h
  exact ⟨d, by rw [State.result, hd], hkind⟩

/-! ## Results -/

/-- The second computation does what the first does, unless the first one overflows. -/
def AgreesUnlessFull {α : Type} (x y : Except Fault α) : Prop :=
  x = y ∨ ∃ f, x = .error f ∧ f.failure.kind.IsOverflow

namespace AgreesUnlessFull

variable {α β : Type} {c c' : Limits}

theorem refl (x : Except Fault α) : AgreesUnlessFull x x := .inl rfl

theorem bind {x y : Except Fault α} {g h : α → Except Fault β} (hxy : AgreesUnlessFull x y)
    (hgh : ∀ a, AgreesUnlessFull (g a) (h a)) : AgreesUnlessFull (x >>= g) (y >>= h) := by
  rcases hxy with rfl | ⟨f, rfl, hfull⟩
  · cases x with
    | ok a => exact hgh a
    | error f => exact refl _
  · exact .inr ⟨f, rfl, hfull⟩

/-- Sequencing after a first part that knows no limits. -/
theorem bind_right (x : Except Fault α) {g h : α → Except Fault β}
    (hgh : ∀ a, AgreesUnlessFull (g a) (h a)) : AgreesUnlessFull (x >>= g) (x >>= h) :=
  (refl x).bind hgh

theorem push (hstack : c.stackSize ≤ c'.stackSize) (s : State) (v : Value) :
    AgreesUnlessFull (s.push c v) (s.push c' v) := by
  by_cases hfull : c.stackSize ≤ s.stack.depth
  · exact .inr ⟨_, State.push_eq_error.2 ⟨hfull, rfl⟩, .inl rfl⟩
  · refine .inl ?_
    rw [State.push_eq_ok.2 ⟨by omega, rfl⟩, State.push_eq_ok.2 ⟨by omega, rfl⟩]

theorem call (hcalls : c.callDepth ≤ c'.callDepth) (p : Program) (r : Registry) (target : ℕ)
    (s : State) :
    AgreesUnlessFull ((Machine.mk p c r).call target s) ((Machine.mk p c' r).call target s) := by
  rw [Machine.call, Machine.call]
  by_cases hfull : c.callDepth ≤ s.calls.depth
  · rw [if_pos hfull]
    exact .inr ⟨_, rfl, .inr rfl⟩
  · rw [if_neg hfull, if_neg (show ¬c'.callDepth ≤ s.calls.depth by omega)]
    exact refl _

end AgreesUnlessFull

/-! ## Operations and steps -/

namespace Machine

open AgreesUnlessFull

variable {c c' : Limits}

theorem callLibrary_agrees (hstack : c.stackSize ≤ c'.stackSize) (p : Program) (r : Registry)
    (op : Op) (library method : String) (n : ℕ) (s : State) :
    AgreesUnlessFull ((Machine.mk p c r).callLibrary op library method n s)
      ((Machine.mk p c' r).callLibrary op library method n s) := by
  refine bind_right _ fun ⟨arguments, s⟩ ↦ ?_
  dsimp only
  split
  · exact refl _
  · split
    · exact push hstack _ _
    all_goals exact refl _

theorem exec_agrees (hstack : c.stackSize ≤ c'.stackSize) (hcalls : c.callDepth ≤ c'.callDepth)
    (p : Program) (r : Registry) (op : Op) (s : State) :
    AgreesUnlessFull ((Machine.mk p c r).exec op s) ((Machine.mk p c' r).exec op s) := by
  cases op with
  | pushNumber | pushString | pushBoolean | pushArray | loadVariable => exact push hstack _ _
  | duplicate =>
    rw [exec, exec]
    split
    · exact push hstack _ _
    · exact refl _
  | loadElement | add | subtract | multiply | divide | negate =>
    exact bind_right _ fun _ ↦ bind_right _ fun _ ↦ push hstack _ _
  | compareEqual | compareNotEqual | compareLessThan | compareGreaterThan
  | compareLessThanOrEqual | compareGreaterThanOrEqual | toBoolean =>
    exact bind_right _ fun _ ↦ push hstack _ _
  | callLibrary => exact callLibrary_agrees hstack p r _ _ _ _ s
  | call target => exact .call hcalls p r target s
  -- the rest knows neither limit
  | pop | storeVariable | storeElement | jump | jumpIfTrue | jumpIfFalse | ret | halt =>
    exact refl _

theorem step_agrees (hstack : c.stackSize ≤ c'.stackSize) (hcalls : c.callDepth ≤ c'.callDepth)
    (p : Program) (r : Registry) {s : State} (hrun : s.isRunning = true) :
    (Machine.mk p c r).step s = (Machine.mk p c' r).step s ∨
      ((Machine.mk p c r).step s).Overflowed := by
  cases hfetch : p.fetch? s.pc with
  | none =>
    rw [step, step, hfetch]
    exact .inl rfl
  | some i =>
    rcases exec_agrees hstack hcalls p r i.op s.passed with heq | ⟨f, hf, hfull⟩
    · rw [State.passed] at heq
      rw [step, step, hfetch]
      dsimp only
      rw [heq]
      exact .inl rfl
    · rw [step_of_error hrun hfetch hf]
      exact .inr ⟨_, rfl, hfull⟩

/-! ## Runs -/

/-- **Lockstep.** After any number of steps the two runs are in the same state, or the one with the
smaller limits has overflowed. -/
theorem advance_agrees (hstack : c.stackSize ≤ c'.stackSize) (hcalls : c.callDepth ≤ c'.callDepth)
    (p : Program) (r : Registry) (n : ℕ) (s : State) :
    (Machine.mk p c r).advance n s = (Machine.mk p c' r).advance n s ∨
      ((Machine.mk p c r).advance n s).Overflowed := by
  induction n generalizing s with
  | zero => exact .inl rfl
  | succ n ih =>
    cases hrun : s.isRunning with
    | false =>
      rw [advance_of_ended hrun, advance_of_ended hrun]
      exact .inl rfl
    | true =>
      rw [advance_succ_of_isRunning hrun, advance_succ_of_isRunning hrun]
      rcases step_agrees hstack hcalls p r hrun with heq | hfull
      · rw [← heq]
        exact ih _
      · rw [advance_of_ended hfull.isRunning]
        exact .inr hfull

/-- **Limits are monotone.** A run that ends, and not by meeting a limit, ends after as many steps
and in the same state, hence with the same result, under larger limits. A run that does not end
does not end under larger limits either. -/
theorem run_limits_monotone (p : Program) (r : Registry) (c c' : Limits)
    (hstack : c.stackSize ≤ c'.stackSize) (hcalls : c.callDepth ≤ c'.callDepth) :
    (∀ n s, (Machine.mk p c r).run n = some s →
      (∀ d, s.result = .error d → d.kind ≠ .stackOverflow ∧ d.kind ≠ .callOverflow) →
      (Machine.mk p c' r).run n = some s) ∧
    ((∀ n, (Machine.mk p c r).run n = none) → ∀ n, (Machine.mk p c' r).run n = none) := by
  refine ⟨fun n s hrun hkind ↦ ?_, fun hrun n ↦ ?_⟩
  · obtain ⟨hadvance, hended⟩ := run_eq_some_iff.1 hrun
    rcases advance_agrees hstack hcalls p r n .initial with heq | hfull
    · exact run_eq_some_iff.2 ⟨heq ▸ hadvance, hended⟩
    · rw [hadvance] at hfull
      obtain ⟨d, hd, hover⟩ := hfull.result
      exact absurd hover (not_or.2 (hkind d hd))
  · have hgoes := run_eq_none_iff.1 (hrun n)
    rcases advance_agrees hstack hcalls p r n .initial with heq | hfull
    · exact run_eq_none_iff.2 (heq ▸ hgoes)
    · rw [hfull.isRunning] at hgoes
      exact absurd hgoes Bool.false_ne_true

/-- A subroutine that just fits, with room for one operand and one call, and a loop that needs
neither. -/
theorem run_limits_monotone_subroutine :
    (Machine.mk ⟨#[⟨.call 2, {}⟩, ⟨.halt, {}⟩, ⟨.pushBoolean true, {}⟩, ⟨.ret, {}⟩]⟩
        ⟨0, 9, 7⟩ []).run 4 =
      some { pc := 2, stack := Stack.empty.push (.boolean true), status := .completed } ∧
    ∀ n, (Machine.mk ⟨#[⟨.jump 0, {}⟩]⟩ ⟨0, 9, 7⟩ []).run n = none := by
  refine ⟨(run_limits_monotone _ _ ⟨0, 1, 1⟩ _ (by decide) (by decide)).1 4 _ rfl nofun,
    (run_limits_monotone _ _ ⟨0, 1, 1⟩ _ (by decide) (by decide)).2 fun n ↦ ?_⟩
  rw [run_eq_none_iff]
  -- the loop comes back to the initial state with every step
  induction n with
  | zero => rfl
  | succ n ih => exact ih

end Machine

end StackScript
