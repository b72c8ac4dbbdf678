import StackScript.Proofs.Entries
import StackScript.Proofs.Noninterference

/-!
# Runs of one session do not see each other

A session keeps its limits, its libraries and the state of the last run. In between, programs are
run, diagnostics are put in and libraries are registered, in any order. Only what was registered
matters to a run: its final state is that of a session which has just begun, with those libraries.

## What is left behind

A run begins in the initial state, whatever lies in the session, and ends in a state that does not
go on. The first is how `Session.run` is defined; the second holds since a run is the final state of
steps taken until the end. So a diagnostic that is put in can matter only before the first run, and
there only the first one does.
-/

namespace StackScript

/-! ## Libraries -/

theorem Registry.get?_register (r : Registry) (l : Library) (name : String) :
    (r.register l).get? name = if name = l.name then some l else r.get? name :=
  Entries.get?_insert r l.name l name

/-- A run finds its libraries by name, so how a registry came about does not matter to it. -/
theorem Machine.run_congr_libraries {r r' : Registry} (h : ∀ name, r.get? name = r'.get? name)
    (p : Program) (c : Limits) (n : ℕ) : (Machine.mk p c r).run n = (Machine.mk p c r').run n := by
  have hstep (s : State) : (Machine.mk p c r).step s = (Machine.mk p c r').step s :=
    step_congr rfl fun i _ ↦ ⟨rfl, fun _ _ ↦ Iff.rfl, fun library _ _ _ ↦ h library⟩
  rw [run, run, advance_congr hstep]

namespace State

theorem terminate_of_ended {s : State} (h : s.isRunning = false) (d : Diagnostic) :
    s.terminate d = s := by
  rw [terminate, h, if_neg Bool.false_ne_true]

end State

namespace Session

/-! ## Histories -/

/-- What can be done with a session. -/
inductive Action where
  /-- A program is run, and its run ends. -/
  | run (p : Program)
  /-- A diagnostic is put in. -/
  | terminate (d : Diagnostic)
  /-- A library is registered. -/
  | register (l : Library)

namespace Action

/-- The library that the action registers, if it does so under the name. -/
def registers? (name : String) : Action → Option Library
  | register l => if l.name = name then some l else none
  | _ => none

/-- The diagnostic that the action puts in. -/
def puts? : Action → Option Diagnostic
  | terminate d => some d
  | _ => none

end Action

/-- The library that was registered last under the name. -/
def latest? (history : List Action) (name : String) : Option Library :=
  history.reverse.findSome? (Action.registers? name)

/-- The diagnostic that was put in first. -/
def first? (history : List Action) : Option Diagnostic :=
  history.findSome? Action.puts?

/-- The session in which nothing was done yet. -/
def fresh (limits : Limits) (libraries : Registry) : Session :=
  { limits := limits, libraries := libraries }

/-- The sessions to which a history leads, its first action first. -/
inductive Reached (start : Session) : List Action → Session → Prop
  | start : Reached start [] start
  | run {history : List Action} {s t : Session} (fuel : ℕ) {p : Program}
      (before : Reached start history s) (ended : s.run fuel p = some t) :
      Reached start (history ++ [.run p]) t
  | terminate {history : List Action} {s : Session} (before : Reached start history s)
      (d : Diagnostic) : Reached start (history ++ [.terminate d]) (s.terminate d)
  | register {history : List Action} {s : Session} (before : Reached start history s)
      (l : Library) : Reached start (history ++ [.register l]) (s.register l)

variable {start s t : Session} {history : List Action} {fuel : ℕ} {p : Program}

theorem run_eq_some (h : s.run fuel p = some t) :
    ∃ u, (s.machine p).run fuel = some u ∧ t = { s with state := u } := by
  obtain ⟨u, hu, rfl⟩ := Option.map_eq_some_iff.1 h
  exact ⟨u, hu, rfl⟩

theorem map_state_run (s : Session) (fuel : ℕ) (p : Program) :
    (s.run fuel p).map Session.state = (Machine.mk p s.limits s.libraries).run fuel := by
  rw [run, Option.map_map]
  exact Option.map_id'

theorem latest?_concat (history : List Action) (a : Action) (name : String) :
    latest? (history ++ [a]) name = (a.registers? name).or (latest? history name) := by
  rw [latest?, List.reverse_concat, List.findSome?_cons]
  cases a.registers? name <;> rfl

theorem first?_concat (history : List Action) (a : Action) :
    first? (history ++ [a]) = (first? history).or a.puts? := by
  rw [first?, List.findSome?_append, List.findSome?_singleton]
  rfl

namespace Reached

theorem limits (h : start.Reached history s) : s.limits = start.limits := by
  induction h with
  | start => rfl
  | run fuel before ended ih =>
    obtain ⟨u, -, rfl⟩ := run_eq_some ended
    exact ih
  | terminate before d ih => exact ih
  | register before l ih => exact ih

/-- A name stands for what was registered last under it, or else for what it stood for at the
start. -/
theorem get?_libraries (h : start.Reached history s) (name : String) :
    s.libraries.get? name = (latest? history name).or (start.libraries.get? name) := by
  induction h with
  | start => rfl
  | run fuel before ended ih =>
    obtain ⟨u, -, rfl⟩ := run_eq_some ended
    rw [latest?_concat]
    exact ih
  | terminate before d ih =>
    rw [latest?_concat]
    exact ih
  | register before l ih =>
    rw [latest?_concat, Session.register, Registry.get?_register, Action.registers?, ih]
    by_cases hname : name = l.name
    · rw [if_pos hname, if_pos hname.symm]
      rfl
    · rw [if_neg hname, if_neg (Ne.symm hname)]
      rfl

/-- Once a program was run, no run goes on: a run leaves none that does, and no action starts one. -/
theorem isRunning_of_run (h : start.Reached history s) (hrun : .run p ∈ history) :
    s.state.isRunning = false := by
  induction h with
  | start => cases hrun
  | run fuel before ended ih =>
    obtain ⟨u, hu, rfl⟩ := run_eq_some ended
    exact (Machine.run_eq_some_iff.1 hu).2
  | terminate before d ih =>
    have hended := ih (by simpa using hrun)
    rw [Session.terminate, State.terminate_of_ended hended]
    exact hended
  | register before l ih => exact ih (by simpa using hrun)

/-- Before the first run the state is the initial one, up to the first diagnostic that was put
in. -/
theorem state_of_no_run (h : start.Reached history s) (hstart : start.state = .initial)
    (hrun : ∀ p, .run p ∉ history) :
    s.state = { State.initial with status := (first? history).elim .running .terminated } := by
  induction h with
  | start => exact hstart
  | @run _ _ _ _ p before ended ih => exact absurd List.mem_concat_self (hrun p)
  | @terminate history s before d ih =>
    have hstate := ih fun p hp ↦ hrun p (List.mem_append_left _ hp)
    rw [first?_concat, Session.terminate, hstate, State.terminate]
    cases first? history <;> rfl
  | @register history s before l ih =>
    have hstate := ih fun p hp ↦ hrun p (List.mem_append_left _ hp)
    rw [first?_concat, Session.register, hstate]
    cases first? history <;> rfl

end Reached

/-- **Runs are isolated.** Let a history lead from a fresh session to `s`. The names of libraries
stand for what the history registered last under them, and otherwise for what they stood for at the
start. Any program run next ends as in a fresh session with a registry in which they do so, within
as many steps and in the same state, hence with the same result. If a program was run, the run does
not go on, and no diagnostic that is put in changes anything. If none was run, the state is the
initial one, up to the first diagnostic that was put in, which is its status. Registering a library
does not touch the state. -/
theorem runs_isolated (c : Limits) (r : Registry) (history : List Action) (s : Session)
    (h : (fresh c r).Reached history s) :
    (∀ name, s.libraries.get? name = (latest? history name).or (r.get? name)) ∧
    (∀ r' : Registry, (∀ name, r'.get? name = (latest? history name).or (r.get? name)) →
      ∀ fuel p, (s.run fuel p).map Session.state = ((fresh c r').run fuel p).map Session.state) ∧
    ((∃ p, .run p ∈ history) → s.state.isRunning = false ∧ ∀ d, s.terminate d = s) ∧
    ((∀ p, .run p ∉ history) →
      s.state = { State.initial with status := (first? history).elim .running .terminated }) ∧
    ∀ l, (s.register l).state = s.state := by
  refine ⟨h.get?_libraries, fun r' hr' fuel p ↦ ?_, ?_, h.state_of_no_run rfl, fun l ↦ rfl⟩
  · rw [map_state_run, map_state_run, h.limits]
    exact Machine.run_congr_libraries
      (fun name ↦ (h.get?_libraries name).trans (hr' name).symm) p c fuel
  · rintro ⟨p, hp⟩
    have hended := h.isRunning_of_run hp
    refine ⟨hended, fun d ↦ ?_⟩
    rw [terminate, State.terminate_of_ended hended]

/-- A diagnostic is put in, a program fails, and a library takes the place of another. -/
def echoAfterFailure : List Action :=
  [.terminate ⟨.arrayIndex, {}, []⟩, .run ⟨#[⟨.ret, {}⟩]⟩, .register Machine.echo]

/-- What the library gives to the next run is what it gives to the first run of a session. -/
theorem runs_isolated_echoAfterFailure :
    ∃ s, (fresh {} [("Echo", .ofMethods "Echo" [])]).Reached echoAfterFailure s ∧
      s.state.isRunning = false ∧
      (s.run 3 (Machine.signOfEcho {})).map Session.state =
        ((fresh {} [("Echo", Machine.echo)]).run 3 (Machine.signOfEcho {})).map Session.state := by
  obtain ⟨s, hs⟩ : ∃ s, (fresh {} [("Echo", .ofMethods "Echo" [])]).Reached echoAfterFailure s :=
    ⟨_, .register (.run 1 (.terminate .start _) rfl) _⟩
  obtain ⟨-, hnext, hended, -⟩ := runs_isolated _ _ _ _ hs
  have hlibraries (name : String) : Entries.get? [("Echo", Machine.echo)] name =
      (latest? echoAfterFailure name).or
        (Entries.get? [("Echo", .ofMethods "Echo" [])] name) := by
    by_cases hname : name = "Echo"
    · rw [hname]
      rfl
    · have hother : Machine.echo.name ≠ name := Ne.symm hname
      have hnone : latest? echoAfterFailure name = none := by
        rw [latest?, echoAfterFailure, List.findSome?_eq_none_iff]
        simp [Action.registers?, hother]
      rw [hnone, Entries.get?_cons, Entries.get?_cons, if_neg hname, if_neg hname]
      rfl
  have hrun : .run ⟨#[⟨.ret, {}⟩]⟩ ∈ echoAfterFailure := List.mem_cons_of_mem _ List.mem_cons_self
  exact ⟨s, hs, (hended ⟨_, hrun⟩).1, hnext _ hlibraries 3 _⟩

end Session

end StackScript
