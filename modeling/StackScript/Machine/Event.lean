import StackScript.Library.Builtin
import StackScript.Machine.Run
import StackScript.Settings.Log

/-!
# Events of a run

What a run reports while it goes on. Events hold values, not texts, so that an event that nobody
reads costs no printing. The events of a step are determined by the state before it.
-/

namespace StackScript

/-- Something worth a line in the log. -/
inductive Event where
  /-- A program was read. -/
  | loaded (instructions : Nat)
  /-- The program, one instruction a line. -/
  | listing (text : String)
  /-- A valid program is about to run. -/
  | starting
  /-- A library was registered. -/
  | registered (library : String)
  /-- The machine begins. -/
  | started (instructions : Nat)
  /-- An instruction is about to be done. -/
  | executing (pc : Nat) (op : Op) (stack : Stack Value)
  /-- A library method is about to be called. -/
  | calling (method : String) (arguments : Nat)
  /-- The run failed. -/
  | failed (d : Diagnostic)
  /-- The machine came to its end. -/
  | completed (bindings : Nat)
  /-- The program was run without a failure. -/
  | finished
  /-- The command line was read. -/
  | invoked (program : String) (limits : Limits) (dump : Bool)

namespace Event

def level : Event → LogLevel
  | executing .. | calling .. => .trace
  | listing _ | starting | finished => .info
  | _ => .debug

/-- Which part of the program reports an event. -/
def phase : Event → Phase
  | loaded _ | listing _ => .loader
  | registered _ | calling .. => .library
  | invoked .. => .cli
  | _ => .engine

/-- A truth value in a log line. -/
def flag (b : Bool) : String :=
  if b then "true" else "false"

def message : Event → String
  | loaded _ => "program loaded"
  | listing t => "program listing:\n" ++ t
  | starting => "Starting execution"
  | registered _ => "registered library"
  | started _ => "run started"
  | executing pc op stack =>
    Program.padNumber pc ++ " " ++ op.text ++ " | stack: [" ++
      ", ".intercalate (stack.toList.map Value.shown) ++ "]"
  | calling .. => "library call"
  | failed d => "run terminated: " ++ d.message
  | completed _ => "run completed"
  | finished => "Execution completed"
  | invoked .. => "running"

/-- The settings of a run in a log line. -/
def settingsText (limits : Limits) (dump : Bool) : String :=
  "RunConfig \x7b engine: EngineConfig \x7b initial_stack_capacity: " ++
    toString limits.initialCapacity ++ ", max_stack_size: " ++ toString limits.stackSize ++
    ", max_call_depth: " ++ toString limits.callDepth ++ " \x7d, dump_program: " ++
    flag dump ++ " \x7d"

def fields : Event → List (String × String)
  | loaded n | started n => [("instructions", toString n)]
  | registered l => [("library", Text.quoted l)]
  | calling m n => [("method", m), ("args", toString n)]
  | failed d => [("kind", d.kind.name), ("at", d.range.text)]
  | completed n => [("bindings", toString n)]
  | invoked program limits dump =>
    [("program", program), ("run_config", settingsText limits dump)]
  | listing _ | starting | executing .. | finished => []

/-- The details of an event behind its message. -/
def fieldsText (e : Event) : String :=
  "".intercalate (e.fields.map fun (name, value) ↦ " " ++ name ++ "=" ++ value)

/-- The event as one line, behind its level and the part that reports it. -/
def line (e : Event) : String :=
  e.level.label ++ " " ++ e.phase.target ++ ": " ++ e.message ++ e.fieldsText

end Event

namespace Machine

/-- The call that an operation announces: its library exists and its arguments are there. -/
def announced (m : Machine) (s : State) : Op → List Event
  | .callLibrary library method n =>
    if n ≤ s.stack.depth ∧ (m.libraries.get? library).isSome then
      [.calling (qualified library method) n]
    else
      []
  | _ => []

/-- The events of the step from a state. -/
def observe (m : Machine) (s : State) : List Event :=
  match m.program.fetch? s.pc with
  | none => []
  | some i => .executing s.pc i.op s.stack :: m.announced s i.op

/-- The events of at most `fuel` steps, the last ones first, before those in `past`. -/
def history (m : Machine) : Nat → State → List Event → List Event
  | 0, _, past => past
  | fuel + 1, s, past =>
    if s.isRunning then
      history m fuel (m.step s) ((m.observe s).reverse ++ past)
    else
      past

def conclusion (s : State) : Event :=
  match s.result with
  | .error d => .failed d
  | .ok o => .completed o.bindings.size

/-- The events of a run that ends within `fuel` steps in `final`; those of the single steps are left
out unless asked for. -/
def events (m : Machine) (detailed : Bool) (fuel : Nat) (final : State) : List Event :=
  let steps := if detailed then (m.history fuel .initial []).reverse else []
  .started m.program.length :: steps ++ [conclusion final]

end Machine

end StackScript
