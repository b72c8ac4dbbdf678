import StackScript.Proofs.FirstFailure

/-!
# Subroutine calls are well bracketed

A call and the return that ends it may lie arbitrarily far apart, with nested calls, recursion and
jumps into and out of subroutine bodies between them. Nothing of that can lose the place to return
to: it stays where the call put it as long as the subroutine is open, and the return that closes the
subroutine goes back to it.

## One step

What a step does to the open calls depends only on which operation succeeded in it. A call puts the
place behind itself on top, a return takes the top place and goes there, and everything else, a
failure included, leaves the open calls alone. `Machine.Traffic` says so, and both results follow
from it: the bracketing by carrying a bottom part of the call stack along the run, and the balance
by counting.
-/

namespace StackScript

namespace Stack

variable {α : Type}

@[simp] theorem toList_push (s : Stack α) (a : α) : (s.push a).toList = s.toList ++ [a] := by
  rw [toList, items_push, List.reverse_cons, toList]

theorem eq_of_toList_eq {s t : Stack α} (h : s.toList = t.toList) : s = t :=
  ext (List.reverse_inj.1 h)

theorem length_toList (s : Stack α) : s.toList.length = s.depth := by
  rw [toList, List.length_reverse, s.depth_eq]

end Stack

def Op.isCall : Op → Bool
  | call _ => true
  | _ => false

def Op.isReturn : Op → Bool
  | ret => true
  | _ => false

namespace Machine

variable {m : Machine} {op : Op} {s t : State} {place n k : ℕ} {base : Stack ℕ}

/-- The operation that is done in the step from a state, if one is and it succeeds. -/
def succeeded? (m : Machine) (s : State) : Option Op :=
  (m.dispatched? s).bind fun i ↦
    match m.exec i.op s.passed with
    | .ok _ => some i.op
    | .error _ => none

/-- How many operations of a class succeed in the first `n` steps of a run. -/
def successes (m : Machine) (p : Op → Bool) (n : ℕ) : ℕ :=
  (List.range n).countP fun k ↦ (m.succeeded? (m.advance k .initial)).any p

/-! ## One step -/

theorem succeeded?_of_ended (h : s.isRunning = false) : m.succeeded? s = none := by
  rw [succeeded?, dispatched?_of_ended h]
  rfl

theorem succeeded?_of_fetch?_eq_none (h : m.program.fetch? s.pc = none) :
    m.succeeded? s = none := by
  rw [succeeded?, dispatched?, h, ite_self]
  rfl

theorem succeeded?_of_ok {i : Instruction} (hrun : s.isRunning = true)
    (hfetch : m.program.fetch? s.pc = some i) (hexec : m.exec i.op s.passed = .ok t) :
    m.succeeded? s = some i.op := by
  rw [succeeded?, dispatched?_of_isRunning hrun, hfetch, Option.bind_some, hexec]

theorem succeeded?_of_error {i : Instruction} {f : Fault}
    (hfetch : m.program.fetch? s.pc = some i) (hexec : m.exec i.op s.passed = .error f) :
    m.succeeded? s = none := by
  rw [succeeded?, dispatched?, hfetch]
  split
  · rw [Option.bind_some, hexec]
  · rfl

/-- What a step from `s` to `t` does to the open calls. -/
inductive Traffic (m : Machine) (s t : State) : Prop
  /-- Neither a call nor a return succeeded, and the open calls are the same. -/
  | kept (calls : t.calls = s.calls)
      (other : ∀ op ∈ m.succeeded? s, op.isCall = false ∧ op.isReturn = false)
  /-- A call succeeded, and the place behind it was put on top. -/
  | opened (target : ℕ) (done : m.succeeded? s = some (.call target))
      (calls : t.calls = s.calls.push (s.pc + 1))
  /-- A return succeeded, and control went to the place that was on top. -/
  | closed (done : m.succeeded? s = some .ret) (calls : s.calls = t.calls.push t.pc)

theorem Effect.calls_eq (h : m.Effect op s t) (hcall : op.isCall = false)
    (hret : op.isReturn = false) : t.calls = s.calls := by
  cases h with
  | take | push | store | jump => rfl
  | call target named =>
    rw [named] at hcall
    cases hcall
  | ret place rest named =>
    rw [named] at hret
    cases hret
  | halt named =>
    rw [State.complete]
    split <;> rfl

/-- An effect alone does not tell a call that did nothing from one that went to its subroutine, so
calls and returns are taken from their own equations and only the rest from the effects. -/
theorem traffic_of_ok {i : Instruction} (hdone : m.succeeded? s = some i.op)
    (hexec : m.exec i.op s.passed = .ok t) : m.Traffic s t := by
  cases hcall : i.op.isCall with
  | true =>
    obtain ⟨target, hop⟩ : ∃ target, i.op = .call target := by
      cases hop : i.op <;> simp_all [Op.isCall]
    rw [hop] at hdone hexec
    obtain ⟨-, -, rfl⟩ := call_eq_ok.1 hexec
    exact .opened target hdone rfl
  | false =>
    cases hret : i.op.isReturn with
    | true =>
      have hop : i.op = .ret := by
        cases hop : i.op <;> simp_all [Op.isReturn]
      rw [hop] at hdone hexec
      obtain ⟨place, rest, hcalls, rfl⟩ := ret_eq_ok.1 hexec
      exact .closed hdone hcalls
    | false =>
      refine .kept ((exec_effect hexec).calls_eq hcall hret) ?_
      rw [hdone]
      rintro op ⟨⟩
      exact ⟨hcall, hret⟩

/-- **The step lemma.** -/
theorem traffic_of_stepped (hrun : s.isRunning = true) (hstep : m.Stepped s t) :
    m.Traffic s t := by
  have hnone (h : m.succeeded? s = none) :
      ∀ op ∈ m.succeeded? s, op.isCall = false ∧ op.isReturn = false := by
    rw [h]
    exact nofun
  cases hstep with
  | ended fetched => exact .kept rfl (hnone (succeeded?_of_fetch?_eq_none fetched))
  | done fetched executed =>
    exact traffic_of_ok (succeeded?_of_ok hrun fetched executed) executed
  | failed fetched executed =>
    obtain ⟨k, hfailed⟩ := exists_failed_eq executed
    refine .kept ?_ (hnone (succeeded?_of_error fetched executed))
    rw [hfailed, State.took, State.passed]

/-! ## Bracketing -/

/-- The subroutine that was entered with the calls `base` open, and that returns to `place`, has not
been left: the call stack still starts as its call left it. -/
def Inside (base : Stack ℕ) (place : ℕ) (s : State) : Prop :=
  base.toList ++ [place] <+: s.calls.toList

theorem Inside.depth_lt (h : Inside base place s) : base.depth < s.calls.depth := by
  have hlength := h.length_le
  rw [List.length_append, List.length_singleton, Stack.length_toList, Stack.length_toList]
    at hlength
  omega

/-- A subroutine is left only by a return, and this goes back to where it was called. -/
theorem Inside.step (h : Inside base place s) (hrun : s.isRunning = true) :
    Inside base place (m.step s) ∨
      m.succeeded? s = some .ret ∧ (m.step s).pc = place ∧ (m.step s).calls = base := by
  rw [Inside] at h
  cases traffic_of_stepped hrun (stepped (m := m) hrun) with
  | kept calls => exact .inl (by rwa [Inside, calls])
  | opened target done calls =>
    refine .inl (h.trans ?_)
    rw [calls, Stack.toList_push]
    exact List.prefix_append _ _
  | closed done calls =>
    rw [calls, Stack.toList_push, List.prefix_concat_iff] at h
    rcases h with heq | hinside
    · -- the place that the call remembered is the one on top
      obtain ⟨hbase, hplace⟩ := List.append_inj' heq rfl
      exact .inr ⟨done, (List.singleton_inj.1 hplace).symm,
        Stack.eq_of_toList_eq hbase.symm⟩
    · exact .inl hinside

/-- Between the states after `k` and after `j` steps of the run, more than `depth` calls are open. -/
def StaysAbove (m : Machine) (depth k j : ℕ) : Prop :=
  ∀ l, k < l → l ≤ j → depth < (m.advance l .initial).calls.depth

/-- **The run lemma.** A subroutine is open as long as the call depth stays above that of its
call. -/
theorem inside_advance {target : ℕ}
    (hcall : m.succeeded? (m.advance k .initial) = some (.call target))
    (habove : m.StaysAbove (m.advance k .initial).calls.depth k (k + 1 + n)) :
    Inside (m.advance k .initial).calls ((m.advance k .initial).pc + 1)
      (m.advance (k + 1 + n) .initial) := by
  induction n with
  | zero =>
    have hrun : (m.advance k .initial).isRunning = true := by
      cases hended : (m.advance k .initial).isRunning with
      | true => rfl
      | false =>
        rw [succeeded?_of_ended hended] at hcall
        cases hcall
    rw [Nat.add_zero, advance_succ hrun]
    cases traffic_of_stepped hrun (stepped (m := m) hrun) with
    | kept calls other => exact absurd (other _ hcall).1 (by simp [Op.isCall])
    | opened target done calls =>
      exact ⟨[], by rw [List.append_nil, calls, Stack.toList_push]⟩
    | closed done calls =>
      rw [done] at hcall
      cases hcall
  | succ n ih =>
    have hinside := ih fun l hkl hl ↦ habove l hkl (by omega)
    cases hrun : (m.advance (k + 1 + n) .initial).isRunning with
    | true =>
      rw [← Nat.add_assoc, advance_succ hrun]
      refine (hinside.step hrun).resolve_right ?_
      rintro ⟨-, -, hcalls⟩
      have hdepth := habove (k + 1 + n + 1) (by omega) (by omega)
      rw [advance_succ hrun, hcalls] at hdepth
      exact Nat.lt_irrefl _ hdepth
    | false =>
      rw [← Nat.add_assoc, advance_add, advance_of_ended hrun]
      exact hinside

/-! ## Balance -/

theorem successes_succ (m : Machine) (p : Op → Bool) (n : ℕ) :
    m.successes p (n + 1) =
      m.successes p n + if (m.succeeded? (m.advance n .initial)).any p then 1 else 0 := by
  rw [successes, List.range_succ, List.countP_append, List.countP_singleton, successes]

/-- The open calls are those that succeeded and have not been returned from. -/
theorem depth_add_successes (m : Machine) (n : ℕ) :
    (m.advance n .initial).calls.depth + m.successes Op.isReturn n =
      m.successes Op.isCall n := by
  induction n with
  | zero => rfl
  | succ n ih =>
    rw [successes_succ, successes_succ]
    cases hrun : (m.advance n .initial).isRunning with
    | false =>
      rw [advance_add, advance_of_ended hrun, succeeded?_of_ended hrun]
      exact ih
    | true =>
      rw [advance_succ hrun]
      cases traffic_of_stepped hrun (stepped (m := m) hrun) with
      | kept calls other =>
        have hcall : (m.succeeded? (m.advance n .initial)).any Op.isCall = false := by
          rw [Option.any_eq_false_iff_get]
          exact fun h ↦ (other _ (Option.get_mem h)).1
        have hret : (m.succeeded? (m.advance n .initial)).any Op.isReturn = false := by
          rw [Option.any_eq_false_iff_get]
          exact fun h ↦ (other _ (Option.get_mem h)).2
        rw [calls, hcall, hret]
        exact ih
      | opened target done calls =>
        rw [calls, done, Stack.depth_push]
        simp [Op.isCall, Op.isReturn]
        omega
      | closed done calls =>
        rw [calls, Stack.depth_push] at ih
        rw [done]
        simp [Op.isCall, Op.isReturn]
        omega

theorem exec_return_eq_error (hdepth : s.calls.depth = 0) :
    m.exec .ret s.passed = .error ⟨.returnWithoutCall, s.passed⟩ :=
  ret_eq_error.2 ⟨hdepth, rfl⟩

/-- A return fails only because no call is open. -/
theorem fails_return_iff {i : Instruction} (hi : m.dispatched? s = some i) (hop : i.op = .ret) :
    m.Fails s ↔ s.calls.depth = 0 := by
  constructor
  · rintro ⟨i', f, hi', hexec⟩
    rw [hi] at hi'
    obtain rfl := Option.some_inj.1 hi'
    rw [hop] at hexec
    exact (ret_eq_error.1 hexec).1
  · intro hdepth
    exact ⟨i, _, hi, hop ▸ exec_return_eq_error hdepth⟩

theorem status_of_fails_return {i : Instruction} (hi : m.dispatched? s = some i)
    (hop : i.op = .ret) (h : m.Fails s) :
    (m.step s).status = .terminated (Failure.returnWithoutCall.diagnose i.range) := by
  have hexec := exec_return_eq_error (m := m) ((fails_return_iff hi hop).1 h)
  rw [← hop] at hexec
  rw [dispatched?_of_isRunning h.isRunning] at hi
  rw [step_of_error h.isRunning hi hexec]
  rfl

/-- **Calls are well bracketed.** If a call succeeds, then as long as more calls are open than
before it, those that were open before it and the place behind it are the bottom of the call stack;
and the first step after which no more calls are open than before it is a return that goes to the
place behind the call and leaves open what was open before it. A return that is dispatched fails,
for want of a call, exactly if as many calls as returns have succeeded so far. -/
theorem calls_well_bracketed (m : Machine) :
    (∀ k target, m.succeeded? (m.advance k .initial) = some (.call target) →
      ∀ j, k < j → m.StaysAbove (m.advance k .initial).calls.depth k j →
        (m.advance k .initial).calls.toList ++ [(m.advance k .initial).pc + 1] <+:
          (m.advance j .initial).calls.toList ∧
        ((m.advance (j + 1) .initial).calls.depth ≤ (m.advance k .initial).calls.depth →
          m.succeeded? (m.advance j .initial) = some .ret ∧
          (m.advance (j + 1) .initial).pc = (m.advance k .initial).pc + 1 ∧
          (m.advance (j + 1) .initial).calls = (m.advance k .initial).calls)) ∧
    ∀ k i, m.dispatched? (m.advance k .initial) = some i → i.op = .ret →
      (m.Fails (m.advance k .initial) ↔
        m.successes Op.isCall k = m.successes Op.isReturn k) ∧
      (m.Fails (m.advance k .initial) →
        (m.advance (k + 1) .initial).status =
          .terminated (Failure.returnWithoutCall.diagnose i.range)) := by
  constructor
  · intro k target hcall j hkj habove
    obtain ⟨n, rfl⟩ : ∃ n, j = k + 1 + n := Nat.exists_eq_add_of_le hkj
    have hinside := inside_advance hcall habove
    refine ⟨hinside, fun hdepth ↦ ?_⟩
    cases hrun : (m.advance (k + 1 + n) .initial).isRunning with
    | true =>
      rw [advance_succ hrun] at hdepth ⊢
      refine (hinside.step hrun).resolve_left fun hstill ↦ ?_
      have := hstill.depth_lt
      omega
    | false =>
      -- a run that has ended opens and closes nothing
      rw [advance_add, advance_of_ended hrun] at hdepth
      have := hinside.depth_lt
      omega
  · intro k i hi hop
    have hbalance := m.depth_add_successes k
    refine ⟨?_, fun hfails ↦ ?_⟩
    · rw [fails_return_iff hi hop]
      omega
    · rw [advance_succ hfails.isRunning]
      exact status_of_fails_return hi hop hfails

/-- A machine whose program calls a subroutine that calls another one, and then returns once too
often. -/
def nestedCalls : Machine where
  program := ⟨#[⟨.call 2, {}⟩, ⟨.ret, ⟨⟨7, 1⟩, ⟨7, 3⟩⟩⟩, ⟨.call 4, {}⟩, ⟨.ret, {}⟩, ⟨.ret, {}⟩]⟩
  libraries := []

/-- The outer call is left with the fourth step, and the return behind it has no call. -/
theorem calls_well_bracketed_nestedCalls :
    nestedCalls.succeeded? (nestedCalls.advance 0 .initial) = some (.call 2) ∧
    (nestedCalls.advance 4 .initial).pc = 1 ∧ (nestedCalls.advance 4 .initial).calls = .empty ∧
    nestedCalls.successes Op.isCall 4 = 2 ∧ nestedCalls.Fails (nestedCalls.advance 4 .initial) ∧
    (nestedCalls.advance 5 .initial).status =
      .terminated ⟨.returnWithoutCall, ⟨⟨7, 1⟩, ⟨7, 3⟩⟩, []⟩ := by
  have hcall : nestedCalls.succeeded? (nestedCalls.advance 0 .initial) = some (.call 2) := rfl
  have habove : nestedCalls.StaysAbove 0 0 3 := by
    intro l hl hl'
    match l, hl, hl' with
    | 1, _, _ => decide
    | 2, _, _ => decide
    | 3, _, _ => decide
  obtain ⟨hopen, hbalance⟩ := calls_well_bracketed nestedCalls
  obtain ⟨-, hpc, hcalls⟩ := (hopen 0 2 hcall 3 (by decide) habove).2 (by decide)
  obtain ⟨hfails, hstatus⟩ := hbalance 4 _ rfl rfl
  have hfail := hfails.2 rfl
  exact ⟨hcall, hpc, hcalls, rfl, hfail, hstatus hfail⟩

end Machine

end StackScript
