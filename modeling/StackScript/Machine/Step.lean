import StackScript.Library.Basic
import StackScript.Machine.State
import StackScript.Program.Basic
import StackScript.Settings.Limits
import StackScript.Value.Arithmetic
import StackScript.Value.Comparison

/-!
# One step of the machine

`Machine.exec` does one operation. It fails with a cause and with the state as it stood at that
point, so whatever an operation did before it failed stays done. Source ranges play no part in it.
`Machine.step` fetches the next instruction, moves past it and does its operation; behind the last
instruction the run completes.
-/

namespace StackScript

/-- A failed operation: why it failed, and what it left behind. -/
structure Fault where
  /-- The cause. -/
  failure : Failure
  /-- The state as the operation left it. -/
  state : State

/-- What a run depends on and does not change. -/
structure Machine where
  /-- The program. -/
  program : Program
  /-- How much a run may use. -/
  limits : Limits := {}
  /-- The libraries that the program can call. -/
  libraries : Registry

namespace State

/-- Fails without touching anything more. -/
def fail {α : Type} (s : State) (f : Failure) : Except Fault α :=
  .error ⟨f, s⟩

/-- Goes on with a computed result, or fails as its computation did. -/
def check {α : Type} (s : State) : Except Failure α → Except Fault α
  | .ok a => .ok a
  | .error f => s.fail f

/-- Pushes an operand, if there is room. -/
def push (limits : Limits) (s : State) (v : Value) : Except Fault State :=
  if limits.stackSize ≤ s.stack.depth then
    s.fail (.stackOverflow limits.stackSize)
  else
    .ok { s with stack := s.stack.push v }

def pop (op : Op) (s : State) : Except Fault (Value × State) :=
  match s.stack.pop? with
  | some (v, rest) => .ok (v, { s with stack := rest })
  | none => s.fail (.stackUnderflow op.name)

/-- Takes the two top operands, the right one first. -/
def popTwo (op : Op) (s : State) : Except Fault (Value × Value × State) := do
  let (rhs, s) ← s.pop op
  let (lhs, s) ← s.pop op
  return (lhs, rhs, s)

/-- Takes the top `n` operands at once, or none of them. -/
def popMany (op : Op) (n : Nat) (s : State) : Except Fault (List Value × State) :=
  match s.stack.popMany? n with
  | some (vs, rest) => .ok (vs, { s with stack := rest })
  | none => s.fail (.stackUnderflow op.name)

/-- The keys that index values stand for: their texts, unless one is an array. -/
def keysOf : List Value → Except Failure (List String)
  | [] => .ok []
  | v :: rest =>
    if v.isArray then .error .arrayIndex else (keysOf rest).map (v.text :: ·)

/-- Goes on at the target, if it lies in the program or at its end. -/
def jump (length target : Nat) (s : State) : Except Fault State :=
  if length < target then
    s.fail (.invalidTarget target)
  else
    .ok { s with pc := target }

end State

namespace Machine

/-- Does an operator on the two top operands. -/
def arithmetic (m : Machine) (op : Op) (operator : Operator) (s : State) : Except Fault State := do
  let (lhs, rhs, s) ← s.popTwo op
  let v ← s.check (Value.apply operator lhs rhs)
  s.push m.limits v

def compare (m : Machine) (op : Op) (comparison : Comparison) (s : State) :
    Except Fault State := do
  let (lhs, rhs, s) ← s.popTwo op
  s.push m.limits (.boolean (Value.compare comparison lhs rhs))

/-- Goes on at the target if the top operand counts as `wanted`. -/
def branch (m : Machine) (op : Op) (wanted : Bool) (target : Nat) (s : State) :
    Except Fault State := do
  let (condition, s) ← s.pop op
  if condition.truth = wanted then s.jump m.program.length target else return s

/-- Goes on at the target and remembers where to return to. -/
def call (m : Machine) (target : Nat) (s : State) : Except Fault State := do
  if m.limits.callDepth ≤ s.calls.depth then
    s.fail (.callOverflow m.limits.callDepth)
  else
    let t ← s.jump m.program.length target
    return { t with calls := t.calls.push s.pc }

/-- Goes back behind the call that is furthest in. -/
def ret (s : State) : Except Fault State :=
  match s.calls.pop? with
  | some (place, rest) => .ok { s with pc := place, calls := rest }
  | none => s.fail .returnWithoutCall

def qualified (library method : String) : String :=
  library ++ "." ++ method

/-- Calls a library method with the top operands and pushes what it gives back. -/
def callLibrary (m : Machine) (op : Op) (library method : String) (n : Nat) (s : State) :
    Except Fault State := do
  let (arguments, s) ← s.popMany op n
  match m.libraries.get? library with
  | none => s.fail (.unknownMethod (qualified library method))
  | some l =>
    match l.call method arguments with
    | .ok (some v) => s.push m.limits v
    | .ok none => return s
    | .error (.unknownMethod _) => s.fail (.unknownMethod (qualified library method))
    | .error e => s.fail (.libraryCallFailed (qualified library method) e.message)

/-- Does one operation, from a state whose program counter is already past it. -/
def exec (m : Machine) (op : Op) (s : State) : Except Fault State :=
  match op with
  | .pushNumber n => s.push m.limits (.number n)
  | .pushString t => s.push m.limits (.string t)
  | .pushBoolean b => s.push m.limits (.boolean b)
  | .pushArray es => s.push m.limits (.array es)
  | .pop => do
    let (_, s) ← s.pop op
    return s
  | .duplicate =>
    match s.stack.top? with
    | some v => s.push m.limits v
    | none => s.fail (.stackUnderflow op.name)
  | .loadVariable x => s.push m.limits (s.bindings.load x [])
  | .storeVariable x => do
    let (v, s) ← s.pop op
    return { s with bindings := s.bindings.insert x v }
  | .loadElement x n => do
    let (indices, s) ← s.popMany op n
    let keys ← s.check (State.keysOf indices)
    s.push m.limits (s.bindings.load x keys)
  | .storeElement x n => do
    let (v, s) ← s.pop op
    let (indices, s) ← s.popMany op n
    let keys ← s.check (State.keysOf indices)
    return { s with bindings := s.bindings.store x keys v }
  | .add => m.arithmetic op .add s
  | .subtract => m.arithmetic op .subtract s
  | .multiply => m.arithmetic op .multiply s
  | .divide => m.arithmetic op .divide s
  | .negate => do
    let (v, s) ← s.pop op
    let w ← s.check v.negate
    s.push m.limits w
  | .compareEqual => m.compare op .equal s
  | .compareNotEqual => m.compare op .notEqual s
  | .compareLessThan => m.compare op .lessThan s
  | .compareGreaterThan => m.compare op .greaterThan s
  | .compareLessThanOrEqual => m.compare op .lessThanOrEqual s
  | .compareGreaterThanOrEqual => m.compare op .greaterThanOrEqual s
  | .toBoolean => do
    let (v, s) ← s.pop op
    s.push m.limits (.boolean v.truth)
  | .jump t => s.jump m.program.length t
  | .jumpIfTrue t => m.branch op true t s
  | .jumpIfFalse t => m.branch op false t s
  | .call t => m.call t s
  | .ret => ret s
  | .callLibrary library method n => m.callLibrary op library method n s
  | .halt => .ok s.complete

/-- The state after the operation of `i`, done or failed. -/
def settle (i : Instruction) : Except Fault State → State
  | .ok t => t
  | .error fault => fault.state.terminate (fault.failure.diagnose i.range)

/-- Takes one step of a run that goes on. -/
def step (m : Machine) (s : State) : State :=
  match m.program.fetch? s.pc with
  | none => s.complete
  | some i =>
    settle i (m.exec i.op { s with pc := s.pc + 1 })

end Machine

end StackScript
