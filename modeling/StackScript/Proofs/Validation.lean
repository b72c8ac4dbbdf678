import StackScript.Execution
import StackScript.Proofs.Failures
import StackScript.Proofs.FirstFailure

/-!
# Valid programs stay inside

Validation looks at every operation that names a place and reports the first one that names a place
behind the end of the program. It is exact, and it rules out a failure of running: a valid program
never sends control outside, whatever the limits and the libraries are, and a program that does was
reported, at that instruction or an earlier one.

## Two readings of a target

Validation and the machine have to agree on which operations go to a place and on whether the end of
the program is one. `Op.GoesTo` names the four operations apart from both; `Op.target?` is what
validation asks and what the machine reports.
-/

namespace StackScript

/-- The operations that send control to a place: the jumps and the call. -/
def Op.GoesTo (op : Op) (target : ℕ) : Prop :=
  op = .jump target ∨ op = .jumpIfTrue target ∨ op = .jumpIfFalse target ∨ op = .call target

theorem Op.goesTo_iff {op : Op} {target : ℕ} : op.GoesTo target ↔ op.target? = some target := by
  cases op <;> simp [GoesTo, target?]

namespace Program

variable {p : Program} {e : OutOfRange}

/-- The instruction with a number sends control behind the end of the program. -/
def Leaves (p : Program) (index : ℕ) (i : Instruction) (target : ℕ) : Prop :=
  p.fetch? index = some i ∧ i.op.GoesTo target ∧ p.length < target

/-! ## Exactness -/

section Search

variable {length index target : ℕ} {i : Instruction} {is : List Instruction}

theorem firstOutOfRange?_cons_of_le (h : ∀ t, i.op.target? = some t → t ≤ length) :
    firstOutOfRange? length index (i :: is) = firstOutOfRange? length (index + 1) is := by
  rw [firstOutOfRange?]
  split
  · rename_i t ht
    rw [if_neg (Nat.not_lt.2 (h t ht))]
  · rfl

theorem firstOutOfRange?_cons_of_lt (htarget : i.op.target? = some target)
    (h : length < target) :
    firstOutOfRange? length index (i :: is) = some ⟨index, i.op.name, target, length⟩ := by
  rw [firstOutOfRange?, htarget]
  exact if_pos h

theorem firstOutOfRange?_eq_none (h : firstOutOfRange? length index is = none) :
    ∀ i ∈ is, ∀ t, i.op.target? = some t → t ≤ length := by
  induction is generalizing index with
  | nil => exact nofun
  | cons i is ih =>
    by_cases hi : ∀ t, i.op.target? = some t → t ≤ length
    · rw [firstOutOfRange?_cons_of_le hi] at h
      exact List.forall_mem_cons.2 ⟨hi, ih h⟩
    · simp only [Classical.not_forall, Nat.not_le] at hi
      obtain ⟨t, ht, hlt⟩ := hi
      rw [firstOutOfRange?_cons_of_lt ht hlt] at h
      cases h

/-- What the search for an offending operation finds, with what lies before it. -/
theorem firstOutOfRange?_eq_some (h : firstOutOfRange? length index is = some e) :
    ∃ before i after target, is = before ++ i :: after ∧
      (∀ j ∈ before, ∀ t, j.op.target? = some t → t ≤ length) ∧
      i.op.target? = some target ∧ length < target ∧
      e = ⟨index + before.length, i.op.name, target, length⟩ := by
  induction is generalizing index with
  | nil => cases h
  | cons i is ih =>
    by_cases hi : ∀ t, i.op.target? = some t → t ≤ length
    · rw [firstOutOfRange?_cons_of_le hi] at h
      obtain ⟨before, j, after, target, rfl, hbefore, hj, hlt, rfl⟩ := ih h
      refine ⟨i :: before, j, after, target, rfl, ?_, hj, hlt, ?_⟩
      · exact List.forall_mem_cons.2 ⟨hi, hbefore⟩
      · rw [List.length_cons, Nat.add_right_comm, Nat.add_assoc]
    · simp only [Classical.not_forall, Nat.not_le] at hi
      obtain ⟨t, ht, hlt⟩ := hi
      rw [firstOutOfRange?_cons_of_lt ht hlt] at h
      exact ⟨[], i, is, t, rfl, nofun, ht, hlt, (Option.some_inj.1 h).symm⟩

end Search

theorem not_leaves_of_validate_eq_none (h : p.validate = none) (k : ℕ) (i : Instruction)
    (target : ℕ) : ¬p.Leaves k i target := by
  rintro ⟨hfetch, hgoes, houtside⟩
  have hmem : i ∈ p.instructions.toList := Array.mem_toList_iff.2 (Array.mem_of_getElem? hfetch)
  have hle := firstOutOfRange?_eq_none h i hmem target (Op.goesTo_iff.1 hgoes)
  omega

/-- The report of an invalid program: it is about the first instruction that leaves the program. -/
theorem leaves_of_validate_eq_some (h : p.validate = some e) :
    e.length = p.length ∧ (∃ i, p.Leaves e.index i e.target ∧ e.op = i.op.name) ∧
      ∀ k < e.index, ∀ i target, ¬p.Leaves k i target := by
  obtain ⟨before, i, after, target, hsplit, hbefore, htarget, houtside, rfl⟩ :=
    firstOutOfRange?_eq_some h
  have hfetch (k : ℕ) : p.fetch? k = (before ++ i :: after)[k]? := by
    rw [fetch?, ← Array.getElem?_toList, hsplit]
  rw [Nat.zero_add]
  refine ⟨rfl, ⟨i, ⟨?_, Op.goesTo_iff.2 htarget, houtside⟩, rfl⟩, ?_⟩
  · rw [hfetch, List.getElem?_append_right (Nat.le_refl _), Nat.sub_self]
    rfl
  · rintro k hk j t ⟨hj, hgoes, ht⟩
    rw [hfetch, List.getElem?_append_left hk] at hj
    have := hbefore j (List.mem_of_getElem? hj) t (Op.goesTo_iff.1 hgoes)
    omega

theorem validate_eq_none_iff : p.validate = none ↔ ∀ k i target, ¬p.Leaves k i target := by
  refine ⟨not_leaves_of_validate_eq_none, fun h ↦ ?_⟩
  cases hvalid : p.validate with
  | none => rfl
  | some e =>
    obtain ⟨-, ⟨i, hleaves, -⟩, -⟩ := leaves_of_validate_eq_some hvalid
    exact absurd hleaves (h _ _ _)

/-- Whoever leaves the program was reported, unless someone before it was. -/
theorem exists_validate_eq_some {k target : ℕ} {i : Instruction} (h : p.Leaves k i target) :
    ∃ e, p.validate = some e ∧ e.index ≤ k := by
  cases hvalid : p.validate with
  | none => exact absurd h (not_leaves_of_validate_eq_none hvalid k i target)
  | some e =>
    refine ⟨e, rfl, Nat.not_lt.1 fun hlt ↦ ?_⟩
    exact (leaves_of_validate_eq_some hvalid).2.2 k hlt i target h

end Program

/-! ## Soundness -/

namespace Machine

variable {m : Machine} {op : Op} {s : State} {n : ℕ} {d : Diagnostic}

theorem Reason.goesTo {c : Failure} (h : m.Reason op s c) (hkind : c.kind = .invalidTarget) :
    ∃ target, op.GoesTo target ∧ m.program.length < target := by
  cases h with
  | invalidTarget target named outside => exact ⟨target, Op.goesTo_iff.2 named, outside⟩
  | _ => cases hkind

/-- A run that reports an invalid target has met an instruction that leaves the program. -/
theorem exists_leaves_of_invalidTarget (h : m.run n = some s) (hd : s.result = .error d)
    (hkind : d.kind = .invalidTarget) :
    ∃ k i target, m.FailsInto (m.advance k .initial) d s ∧
      m.program.Leaves (m.advance k .initial).pc i target := by
  obtain ⟨k, -, hfails⟩ := exists_failsInto h hd
  obtain ⟨i, f, -, hexec, hfetch, rfl⟩ := hfails.culprit
  rw [hfails.pc, Nat.add_sub_cancel] at hfetch
  obtain ⟨target, hgoes, houtside⟩ := (exec_reason hexec).goesTo hkind
  exact ⟨k, i, target, hfails, hfetch, hgoes, houtside⟩

theorem kind_ne_invalidTarget (hvalid : m.program.validate = none) (h : m.run n = some s)
    (hd : s.result = .error d) : d.kind ≠ .invalidTarget := by
  intro hkind
  obtain ⟨k, i, target, -, hleaves⟩ := exists_leaves_of_invalidTarget h hd hkind
  exact Program.not_leaves_of_validate_eq_none hvalid _ i target hleaves

end Machine

namespace Execution

variable {settings : RunSettings} {detailed : Bool} {fuel : ℕ} {p : Program} {x : Execution}
  {d : Diagnostic}

theorem result_ofFinal_eq_runtime {s : State}
    (h : (ofFinal settings detailed fuel p s).result = .error (.runtime d)) :
    s.result = .error d := by
  rw [ofFinal] at h
  cases hresult : s.result with
  | ok o =>
    rw [hresult] at h
    cases h
  | error d' =>
    rw [hresult] at h
    cases h
    rfl

/-- Running a program validates it first. -/
theorem kind_ne_invalidTarget_of_ofProgram
    (h : ofProgram settings detailed fuel p = some x) (hd : x.result = .error (.runtime d)) :
    d.kind ≠ .invalidTarget := by
  rw [ofProgram] at h
  split at h
  · cases h
    cases hd
  · rename_i hvalid
    obtain ⟨s, hrun, rfl⟩ := Option.map_eq_some_iff.1 h
    exact Machine.kind_ne_invalidTarget (m := machine settings p) hvalid hrun
      (result_ofFinal_eq_runtime hd)

theorem kind_ne_invalidTarget_of_ofText {text : String}
    (h : ofText settings detailed fuel text = some x) (hd : x.result = .error (.runtime d)) :
    d.kind ≠ .invalidTarget := by
  rw [ofText] at h
  split at h
  · cases h
    cases hd
  · obtain ⟨y, hy, rfl⟩ := Option.map_eq_some_iff.1 h
    exact kind_ne_invalidTarget_of_ofProgram hy hd

end Execution

/-- **Validation is exact and sound.** A program is valid exactly if no jump and no call in it goes
behind its end, and the report on an invalid one names the first that does, with its operation, its
target and the length of the program. No run of a valid program, under any limits and with any
libraries, reports an invalid target, so running a program or a program text never does. If a run of
any program does, at some instruction, then validation reports that instruction or an earlier
one. -/
theorem validate_exact_and_sound (p : Program) :
    (p.validate = none ↔ ∀ k i target, ¬p.Leaves k i target) ∧
    (∀ e, p.validate = some e →
      e.length = p.length ∧ (∃ i, p.Leaves e.index i e.target ∧ e.op = i.op.name) ∧
        ∀ k < e.index, ∀ i target, ¬p.Leaves k i target) ∧
    (p.validate = none → ∀ limits libraries n s d,
      (Machine.mk p limits libraries).run n = some s → s.result = .error d →
        d.kind ≠ .invalidTarget) ∧
    (∀ settings detailed fuel x d, Execution.ofProgram settings detailed fuel p = some x →
      x.result = .error (.runtime d) → d.kind ≠ .invalidTarget) ∧
    (∀ settings detailed fuel text x d, Execution.ofText settings detailed fuel text = some x →
      x.result = .error (.runtime d) → d.kind ≠ .invalidTarget) ∧
    ∀ limits libraries n s d,
      (Machine.mk p limits libraries).run n = some s → s.result = .error d →
        d.kind = .invalidTarget →
        ∃ k e, (Machine.mk p limits libraries).FailsInto
            ((Machine.mk p limits libraries).advance k .initial) d s ∧
          p.validate = some e ∧
          e.index ≤ ((Machine.mk p limits libraries).advance k .initial).pc := by
  refine ⟨Program.validate_eq_none_iff, fun e ↦ Program.leaves_of_validate_eq_some, ?_,
    fun _ _ _ _ _ ↦ Execution.kind_ne_invalidTarget_of_ofProgram,
    fun _ _ _ _ _ _ ↦ Execution.kind_ne_invalidTarget_of_ofText, ?_⟩
  · intro hvalid limits libraries n s d
    exact Machine.kind_ne_invalidTarget (m := ⟨p, limits, libraries⟩) hvalid
  · intro limits libraries n s d hrun hd hkind
    obtain ⟨k, i, target, hfails, hleaves⟩ :=
      Machine.exists_leaves_of_invalidTarget hrun hd hkind
    obtain ⟨e, he, hle⟩ := Program.exists_validate_eq_some hleaves
    exact ⟨k, e, hfails, he, hle⟩

/-- A call that is never reached is reported before the jump that leaves the program. -/
theorem validate_exact_and_sound_jumpOut :
    ∃ e s d, Program.validate ⟨#[⟨.jump 2, {}⟩, ⟨.call 9, {}⟩, ⟨.jump 4, {}⟩]⟩ = some e ∧
      e = ⟨1, "Call", 9, 3⟩ ∧
      (Machine.mk ⟨#[⟨.jump 2, {}⟩, ⟨.call 9, {}⟩, ⟨.jump 4, {}⟩]⟩ {} []).run 2 = some s ∧
      s.result = .error d ∧ d.kind = .invalidTarget ∧
      ∃ k, e.index ≤ ((Machine.mk ⟨#[⟨.jump 2, {}⟩, ⟨.call 9, {}⟩, ⟨.jump 4, {}⟩]⟩ {} []).advance
        k .initial).pc := by
  obtain ⟨-, -, -, -, -, hrun⟩ :=
    validate_exact_and_sound ⟨#[⟨.jump 2, {}⟩, ⟨.call 9, {}⟩, ⟨.jump 4, {}⟩]⟩
  obtain ⟨k, e, -, he, hle⟩ := hrun {} [] 2 _ _ rfl rfl rfl
  refine ⟨e, _, _, he, ?_, rfl, rfl, rfl, k, hle⟩
  exact Option.some_inj.1 (he.symm.trans rfl)

end StackScript
