import StackScript.Diagnostic.Failure
import StackScript.Machine.Bindings
import StackScript.Machine.Stack

/-!
# Machine states
-/

namespace StackScript

/-- How far a run has come. -/
inductive Status where
  /-- The run goes on. -/
  | running
  /-- The run failed. -/
  | terminated (d : Diagnostic)
  /-- The run came to its end. -/
  | completed
deriving DecidableEq, Repr

/-- Everything that changes during a run. -/
structure State where
  /-- The number of the next instruction. -/
  pc : Nat := 0
  /-- The variables. -/
  bindings : Bindings := {}
  /-- The operands. -/
  stack : Stack Value := .empty
  /-- The places after the open calls. -/
  calls : Stack Nat := .empty
  /-- How far the run has come. -/
  status : Status := .running
deriving Inhabited

namespace State

/-- The state before the first instruction. -/
def initial : State := {}

def isRunning (s : State) : Bool :=
  match s.status with
  | .running => true
  | _ => false

/-- Ends a run that goes on with a failure; a run that has ended keeps its end. -/
def terminate (s : State) (d : Diagnostic) : State :=
  if s.isRunning then { s with status := .terminated d } else s

/-- Brings a run that goes on to its end. -/
def complete (s : State) : State :=
  if s.isRunning then { s with status := .completed } else s

end State

/-- What a run leaves behind. -/
structure Outcome where
  /-- The value on top of the stack. -/
  value : Option Value
  /-- The variables. -/
  bindings : Bindings

/-- The result of a run that has ended: its failure, or what it leaves behind. -/
def State.result (s : State) : Except Diagnostic Outcome :=
  match s.status with
  | .terminated d => .error d
  | _ => .ok ⟨s.stack.top?, s.bindings⟩

end StackScript
