import StackScript.Machine.Step

/-!
# Runs

A run takes steps from the initial state until it has ended. `Machine.advance` takes at most a given
number of steps, and `Machine.run` is the final state if so many steps are enough.
-/

namespace StackScript

namespace Machine

/-- Takes at most `fuel` steps, and none after the end. -/
def advance (m : Machine) : Nat → State → State
  | 0, s => s
  | fuel + 1, s => if s.isRunning then advance m fuel (m.step s) else s

/-- The final state of a run, if it ends within `fuel` steps. -/
def run (m : Machine) (fuel : Nat) : Option State :=
  let s := m.advance fuel .initial
  if s.isRunning then none else some s

end Machine

/-- A machine that is kept between runs: its limits, its libraries, and the state that the last run
left behind. -/
structure Session where
  /-- How much each run may use. -/
  limits : Limits := {}
  /-- The libraries that programs can call. -/
  libraries : Registry
  /-- The state that is left. -/
  state : State := .initial

namespace Session

def machine (s : Session) (p : Program) : Machine :=
  ⟨p, s.limits, s.libraries⟩

/-- Runs a program from a fresh state, if it ends within `fuel` steps. -/
def run (s : Session) (fuel : Nat) (p : Program) : Option Session :=
  ((s.machine p).run fuel).map fun t ↦ { s with state := t }

/-- Ends a run that goes on with a diagnostic. -/
def terminate (s : Session) (d : Diagnostic) : Session :=
  { s with state := s.state.terminate d }

/-- Adds a library; it replaces one of the same name. -/
def register (s : Session) (l : Library) : Session :=
  { s with libraries := s.libraries.register l }

end Session

end StackScript
