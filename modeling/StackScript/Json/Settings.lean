import StackScript.Json.Shape
import StackScript.Json.Writer
import StackScript.Settings.Limits
import StackScript.Settings.Log

/-!
# Settings as JSON

Every setting may be left out and then has its default.
-/

namespace StackScript.Json

def limits (l : Limits) : String :=
  object [("initial_stack_capacity", toString l.initialCapacity),
    ("max_stack_size", toString l.stackSize), ("max_call_depth", toString l.callDepth)]

def logLevel (l : LogLevel) : String :=
  quote l.name

def logTargets (t : LogTargets) : String :=
  object [("global", logLevel t.overall), ("loader", optional (t.loader.map logLevel)),
    ("engine", optional (t.engine.map logLevel)), ("library", optional (t.library.map logLevel))]

namespace Reader

def limits (depth : Nat) : Reader Limits :=
  record "struct EngineConfig" {} depth [
    { name := "initial_stack_capacity", required := false
      read := natural.into fun l n ↦ { l with initialCapacity := n } },
    { name := "max_stack_size", required := false
      read := natural.into fun l n ↦ { l with stackSize := n } },
    { name := "max_call_depth", required := false
      read := natural.into fun l n ↦ { l with callDepth := n } }]

def logLevel (depth : Nat) : Reader LogLevel :=
  name depth LogLevel.all

/-- Reads a log level or `null`. -/
def logLevel? (depth : Nat) : Reader (Option LogLevel) := do
  match ← token? with
  | some 'n' =>
    literal ['n', 'u', 'l', 'l']
    return none
  | _ => return some (← logLevel depth)

def logTargets (depth : Nat) : Reader LogTargets :=
  record "struct LogTargets" {} depth [
    { name := "global", required := false
      read := (logLevel (depth - 1)).into fun t l ↦ { t with overall := l } },
    { name := "loader", required := false
      read := (logLevel? (depth - 1)).into fun t l ↦ { t with loader := l } },
    { name := "engine", required := false
      read := (logLevel? (depth - 1)).into fun t l ↦ { t with engine := l } },
    { name := "library", required := false
      read := (logLevel? (depth - 1)).into fun t l ↦ { t with library := l } }]

end Reader

end StackScript.Json
