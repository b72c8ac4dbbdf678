import StackScript.Proofs.Bounds
import StackScript.Proofs.Noninterference
import StackScript.Proofs.Validation

/-!
# Ways to end a run

A run completes at a halt, at a jump or a call to the end of the program, or behind the last
instruction, and it makes no difference to its result which of them a program uses. A halt may be
written as a jump to the end, and a program may have a halt behind its last instruction.

## Following a run

In both cases the changed program follows the original one: from any state in which the original
run goes on, it takes the same step, until the original run completes. From there it comes to an end
with the same operands and variables, though perhaps one step later and elsewhere in the program.
`Machine.Follows` says this of the states of one run only, since what is added behind a program is
not to be reached before, and `Machine.Follows.sameResult` draws the conclusion for whole runs.

A program with a halt behind it is longer, so a target that lies right behind the program before
lies inside it afterwards: this is where the program has to be valid.
-/

namespace StackScript

/-! ## Results of runs -/

namespace Machine

variable {m m' : Machine} {s : State} {n : ℕ} {x y : Except Diagnostic Outcome}

/-- The run ends, and this is its result. -/
def EndsWith (m : Machine) (x : Except Diagnostic Outcome) : Prop :=
  ∃ n s, m.run n = some s ∧ s.result = x

/-- The two runs end with the same result, or neither ends. -/
structure SameResult (m m' : Machine) : Prop where
  /-- A result of one is a result of the other. -/
  endsWith : ∀ x, m.EndsWith x ↔ m'.EndsWith x
  /-- One goes on forever if the other does. -/
  goesOn : (∀ n, m.run n = none) ↔ ∀ n, m'.run n = none

theorem endsWith_of_advance (h : (m.advance n .initial).isRunning = false)
    (hx : (m.advance n .initial).result = x) : m.EndsWith x :=
  ⟨n, _, run_eq_some_iff.2 ⟨rfl, h⟩, hx⟩

/-- A run has one result. -/
theorem EndsWith.unique (hx : m.EndsWith x) (hy : m.EndsWith y) : x = y := by
  obtain ⟨n, s, hs, rfl⟩ := hx
  obtain ⟨k, t, ht, rfl⟩ := hy
  obtain ⟨rfl, hended⟩ := run_eq_some_iff.1 hs
  obtain ⟨rfl, hended'⟩ := run_eq_some_iff.1 ht
  have hlong := m.advance_add n k .initial
  rw [Nat.add_comm, advance_add, advance_of_ended hended, advance_of_ended hended'] at hlong
  rw [hlong]

theorem goesOn_iff : (∀ n, m.run n = none) ↔ ∀ x, ¬m.EndsWith x := by
  constructor
  · rintro h x ⟨n, s, hs, -⟩
    rw [h n] at hs
    cases hs
  · intro h n
    cases hs : m.run n with
    | none => rfl
    | some s => exact absurd ⟨n, s, hs, rfl⟩ (h s.result)

/-! ## Following a run -/

/-- From a state of a run that goes on, the second machine takes the same step, or else the run of
the first ends there and that of the second comes to an end with the same result. -/
def FollowsFrom (m' m : Machine) (s : State) : Prop :=
  m'.step s = m.step s ∨
    (m.step s).isRunning = false ∧
      ∃ k, (m'.advance k s).isRunning = false ∧ (m'.advance k s).result = (m.step s).result

/-- The second machine follows the run of the first. -/
def Follows (m' m : Machine) : Prop :=
  ∀ n, (m.advance n .initial).isRunning = true → m'.FollowsFrom m (m.advance n .initial)

namespace Follows

/-- Up to the end the two runs are the same. -/
theorem advance_eq (h : m'.Follows m) (hrun : (m.advance n .initial).isRunning = true) :
    m'.advance n .initial = m.advance n .initial := by
  induction n with
  | zero => rfl
  | succ n ih =>
    have hbefore := isRunning_advance_of_le (Nat.le_succ n) hrun
    have hsame := ih hbefore
    rw [advance_succ hbefore] at hrun ⊢
    rw [advance_succ (hsame ▸ hbefore), hsame]
    rcases h n hbefore with hstep | ⟨hended, -⟩
    · exact hstep
    · rw [hended] at hrun
      cases hrun

theorem endsWith (h : m'.Follows m) (hx : m.EndsWith x) : m'.EndsWith x := by
  obtain ⟨n, s, hs, rfl⟩ := hx
  obtain ⟨k, hrun, hlast⟩ := exists_last_step hs
  have hended := (run_eq_some_iff.1 hs).2
  have hsame := h.advance_eq hrun
  rw [advance_succ hrun] at hlast
  rcases h k hrun with hstep | ⟨-, j, hj, hresult⟩
  · apply endsWith_of_advance (n := k + 1)
    · rw [advance_succ (hsame ▸ hrun), hsame, hstep, hlast, hended]
    · rw [advance_succ (hsame ▸ hrun), hsame, hstep, hlast]
  · apply endsWith_of_advance (n := k + j)
    · rw [advance_add, hsame, hj]
    · rw [advance_add, hsame, hresult, hlast]

/-- A run and one that follows it have the same result: what the first ends with, the second ends
with, and if the first goes on, the second does. -/
theorem sameResult (h : m'.Follows m) : m.SameResult m' := by
  have hgoesOn : (∀ n, m.run n = none) → ∀ n, m'.run n = none := by
    intro hforever n
    have hrun := run_eq_none_iff.1 (hforever n)
    rw [run_eq_none_iff, h.advance_eq hrun]
    exact hrun
  have hback : ∀ y, m'.EndsWith y → m.EndsWith y := by
    intro y hy
    by_cases hends : ∃ x, m.EndsWith x
    · obtain ⟨x, hx⟩ := hends
      rwa [hy.unique (h.endsWith hx)]
    · have hforever := hgoesOn (goesOn_iff.2 (not_exists.1 hends))
      exact absurd hy (goesOn_iff.1 hforever y)
  refine ⟨fun x ↦ ⟨h.endsWith, hback x⟩, hgoesOn, fun hforever ↦ ?_⟩
  exact goesOn_iff.2 fun x hx ↦ goesOn_iff.1 hforever x (h.endsWith hx)

end Follows

end Machine

/-! ## Halts as jumps to the end -/

/-- The instruction with a halt in it replaced by a jump, if a range for the jump is given. -/
def Instruction.haltToJump (i : Instruction) (target : ℕ) (range? : Option Range) : Instruction :=
  match i.op, range? with
  | .halt, some range => ⟨.jump target, range⟩
  | _, _ => i

theorem Instruction.haltToJump_eq (i : Instruction) (target : ℕ) (range? : Option Range) :
    i.haltToJump target range? = i ∨
      i.op = .halt ∧ ∃ range, i.haltToJump target range? = ⟨.jump target, range⟩ := by
  unfold haltToJump
  split
  · rename_i range hop
    exact .inr ⟨hop, range, rfl⟩
  · exact .inl rfl

namespace Program

/-- The program with some of its halts written as jumps to its end: those for which a range is
chosen, which the jump is given. -/
def jumpToEnd (p : Program) (chosen : ℕ → Option Range) : Program :=
  ⟨p.instructions.mapIdx fun k i ↦ i.haltToJump p.length (chosen k)⟩

theorem length_jumpToEnd (p : Program) (chosen : ℕ → Option Range) :
    (p.jumpToEnd chosen).length = p.length :=
  Array.size_mapIdx

theorem fetch?_jumpToEnd (p : Program) (chosen : ℕ → Option Range) (k : ℕ) :
    (p.jumpToEnd chosen).fetch? k =
      (p.fetch? k).map fun i ↦ i.haltToJump p.length (chosen k) :=
  Array.getElem?_mapIdx

/-- The program with a halt behind its last instruction. -/
def appendHalt (p : Program) (range : Range) : Program :=
  ⟨p.instructions.push ⟨.halt, range⟩⟩

theorem length_appendHalt (p : Program) (range : Range) :
    (p.appendHalt range).length = p.length + 1 :=
  Array.size_push _

theorem fetch?_appendHalt_of_lt {p : Program} {k : ℕ} (h : k < p.length) (range : Range) :
    (p.appendHalt range).fetch? k = p.fetch? k := by
  rw [fetch?, appendHalt, Array.getElem?_push_lt h, fetch?, Array.getElem?_eq_getElem h]

theorem fetch?_appendHalt_length (p : Program) (range : Range) :
    (p.appendHalt range).fetch? p.length = some ⟨.halt, range⟩ :=
  Array.getElem?_push_size

end Program

namespace Machine

variable {m : Machine} {s : State} {p : Program} {c : Limits} {r : Registry}

/-- The state in which a run that goes on completes where it is. -/
def completed (s : State) : State :=
  { s with status := .completed }

theorem step_of_fetch?_eq_none (hrun : s.isRunning = true)
    (h : m.program.fetch? s.pc = none) : m.step s = completed s := by
  rw [step, h]
  exact State.complete_of_isRunning hrun

theorem step_halt {range : Range} (hrun : s.isRunning = true)
    (h : m.program.fetch? s.pc = some ⟨.halt, range⟩) : m.step s = completed s.passed := by
  rw [step_of_ok h rfl]
  exact State.complete_of_isRunning hrun

/-- A jump to the end takes two steps: it goes there, and the run completes. -/
theorem advance_jump_length {range : Range} (hrun : s.isRunning = true)
    (h : m.program.fetch? s.pc = some ⟨.jump m.program.length, range⟩) :
    m.advance 2 s = completed { s.passed with pc := m.program.length } := by
  have hjump : m.step s = { s.passed with pc := m.program.length } :=
    step_of_ok h (State.jump_eq_ok.2 ⟨Nat.le_refl _, rfl⟩)
  have hgoes : (m.step s).isRunning = true := by
    rw [hjump]
    exact hrun
  rw [advance_succ_of_isRunning hrun, advance_succ_of_isRunning hgoes, advance, hjump]
  exact step_of_fetch?_eq_none hrun (Program.fetch?_eq_none_iff.2 (Nat.le_refl _))

theorem follows_jumpToEnd (p : Program) (chosen : ℕ → Option Range) (c : Limits) (r : Registry) :
    (Machine.mk (p.jumpToEnd chosen) c r).Follows (Machine.mk p c r) := by
  intro n hrun
  generalize (Machine.mk p c r).advance n .initial = s at hrun
  have hfetch := p.fetch?_jumpToEnd chosen s.pc
  have hlength := p.length_jumpToEnd chosen
  have hagree (op : Op) : (Machine.mk (p.jumpToEnd chosen) c r).AgreeOn (Machine.mk p c r) op :=
    ⟨rfl, fun target _ ↦ by rw [hlength], fun _ _ _ _ ↦ rfl⟩
  cases hi : p.fetch? s.pc with
  | none =>
    rw [hi, Option.map_none] at hfetch
    exact .inl (step_congr (hfetch.trans hi.symm) fun i _ ↦ hagree i.op)
  | some i =>
    rw [hi, Option.map_some] at hfetch
    rcases i.haltToJump_eq p.length (chosen s.pc) with hkept | ⟨hop, range, hjump⟩
    · rw [hkept] at hfetch
      exact .inl (step_congr (hfetch.trans hi.symm) fun i _ ↦ hagree i.op)
    · rw [hjump, ← hlength] at hfetch
      obtain ⟨op, place⟩ := i
      obtain rfl : op = .halt := hop
      have hstep : (Machine.mk p c r).step s = completed s.passed := step_halt hrun hi
      rw [FollowsFrom, hstep]
      refine .inr ⟨rfl, 2, ?_⟩
      rw [advance_jump_length hrun hfetch]
      exact ⟨rfl, rfl⟩

/-- The added halt is met exactly where the original run completes, since a run never goes beyond
the end of its program. -/
theorem follows_appendHalt (hvalid : p.validate = none) (range : Range) (c : Limits)
    (r : Registry) : (Machine.mk (p.appendHalt range) c r).Follows (Machine.mk p c r) := by
  intro n hrun
  have hpc := ((Machine.mk p c r).withinBounds_advance n).pc_le
  generalize (Machine.mk p c r).advance n .initial = s at hrun hpc
  rcases Nat.lt_or_eq_of_le hpc with hlt | heq
  · have hfetch := Program.fetch?_appendHalt_of_lt hlt range
    refine .inl (step_congr hfetch fun i hi ↦ ⟨rfl, fun target htarget ↦ ?_, fun _ _ _ _ ↦ rfl⟩)
    -- in a valid program a target lies inside, so it still does when the program is longer
    have hinside : ¬p.length < target := fun houtside ↦
      Program.not_leaves_of_validate_eq_none hvalid s.pc i target
        ⟨hfetch ▸ hi, Op.goesTo_iff.2 htarget, houtside⟩
    have hlength := p.length_appendHalt range
    refine iff_of_false ?_ hinside
    change ¬(p.appendHalt range).length < target
    omega
  · have hhalt : (p.appendHalt range).fetch? s.pc = some ⟨.halt, range⟩ := by
      rw [heq]
      exact p.fetch?_appendHalt_length range
    have hend : p.fetch? s.pc = none := Program.fetch?_eq_none_iff.2 (Nat.le_of_eq heq.symm)
    have hstep : (Machine.mk p c r).step s = completed s := step_of_fetch?_eq_none hrun hend
    rw [FollowsFrom, hstep]
    refine .inr ⟨rfl, 1, ?_⟩
    rw [advance_succ_of_isRunning hrun, advance, step_halt hrun hhalt]
    exact ⟨rfl, rfl⟩

/-- **The ways to end a run agree.** Write any of the halts of a valid program as jumps to its end,
or put a halt behind its last instruction: under any limits and with any libraries the run has the
same result, be it what it leaves behind or the failure it reports, or neither run ends. -/
theorem ways_to_end_agree (p : Program) (hvalid : p.validate = none) (c : Limits) (r : Registry) :
    (∀ chosen, (Machine.mk p c r).SameResult (Machine.mk (p.jumpToEnd chosen) c r)) ∧
    ∀ range, (Machine.mk p c r).SameResult (Machine.mk (p.appendHalt range) c r) :=
  ⟨fun chosen ↦ (follows_jumpToEnd p chosen c r).sameResult,
    fun range ↦ (follows_appendHalt hvalid range c r).sameResult⟩

/-- A program that pushes a truth value, calls a subroutine which returns at once, and halts. -/
def pushAndReturn : Program :=
  ⟨#[⟨.pushBoolean true, {}⟩, ⟨.call 3, {}⟩, ⟨.halt, {}⟩, ⟨.ret, {}⟩]⟩

/-- With a jump for its halt, and with a halt behind the subroutine, the program leaves the truth
value. -/
theorem ways_to_end_agree_pushAndReturn :
    pushAndReturn.validate = none ∧
    (Machine.mk (pushAndReturn.jumpToEnd fun _ ↦ some {}) {} []).EndsWith
      (.ok ⟨some (.boolean true), {}⟩) ∧
    (Machine.mk (pushAndReturn.appendHalt {}) {} []).EndsWith (.ok ⟨some (.boolean true), {}⟩) := by
  have hends : (Machine.mk pushAndReturn {} []).EndsWith (.ok ⟨some (.boolean true), {}⟩) :=
    ⟨4, _, rfl, rfl⟩
  obtain ⟨hjump, happend⟩ := ways_to_end_agree pushAndReturn rfl {} []
  exact ⟨rfl, ((hjump _).endsWith _).1 hends, ((happend {}).endsWith _).1 hends⟩

end Machine

end StackScript
