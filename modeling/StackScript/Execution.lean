import StackScript.Machine.Event
import StackScript.Report

/-!
# Running a program text

Loading, validating and running with the built-in libraries, with the events that this gives rise
to.
-/

namespace StackScript

/-- How a program text is run. -/
structure RunSettings where
  /-- How much the run may use. -/
  limits : Limits := {}
  /-- Whether the program is listed among the events. -/
  dump : Bool := false
deriving DecidableEq, Repr

/-- The end of a run and the events on the way. -/
structure Execution where
  /-- What the run leaves behind, or why it failed. -/
  result : Except RunError Outcome
  /-- What was reported. -/
  events : List Event

namespace Execution

def machine (settings : RunSettings) (p : Program) : Machine :=
  ⟨p, settings.limits, .builtin⟩

/-- The events between validating a program and the start of its run. -/
def preparation (settings : RunSettings) (p : Program) : List Event :=
  (if settings.dump then [.listing p.listing] else []) ++
    .starting :: Library.builtin.map fun l ↦ .registered l.name

def ofFinal (settings : RunSettings) (detailed : Bool) (fuel : Nat) (p : Program)
    (final : State) : Execution :=
  let events := preparation settings p ++ (machine settings p).events detailed fuel final
  match final.result with
  | .ok outcome => ⟨.ok outcome, events ++ [.finished]⟩
  | .error d => ⟨.error (.runtime d), events⟩

/-- Validates and runs a program, if the run ends within `fuel` steps. -/
def ofProgram (settings : RunSettings) (detailed : Bool) (fuel : Nat) (p : Program) :
    Option Execution :=
  match p.validate with
  | some e => some ⟨.error (.invalid e), []⟩
  | none => ((machine settings p).run fuel).map (ofFinal settings detailed fuel p)

/-- Loads, validates and runs a program text, if the run ends within `fuel` steps. -/
def ofText (settings : RunSettings) (detailed : Bool) (fuel : Nat) (text : String) :
    Option Execution :=
  match Program.load text with
  | .error e => some ⟨.error (.load e), []⟩
  | .ok p => (ofProgram settings detailed fuel p).map fun x ↦
      { x with events := .loaded p.length :: x.events }

end Execution

end StackScript
