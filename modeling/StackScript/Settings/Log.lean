/-!
# Log settings

How much is logged, overall and by the part of the program that logs it.
-/

namespace StackScript

/-- How important an event is, from the least to the most. -/
inductive LogLevel where
  | trace
  | debug
  | info
  | warn
  | error
deriving DecidableEq, Repr

namespace LogLevel

def all : List (String × LogLevel) :=
  [("trace", .trace), ("debug", .debug), ("info", .info), ("warn", .warn), ("error", .error)]

def name : LogLevel → String
  | .trace => "trace"
  | .debug => "debug"
  | .info => "info"
  | .warn => "warn"
  | .error => "error"

/-- The level as log lines show it. -/
def label : LogLevel → String
  | .trace => "TRACE"
  | .debug => "DEBUG"
  | .info => "INFO"
  | .warn => "WARN"
  | .error => "ERROR"

def rank : LogLevel → Nat
  | .trace => 0
  | .debug => 1
  | .info => 2
  | .warn => 3
  | .error => 4

/-- Reads a level from its name in any mixture of ASCII cases; `silent` is another name for the most
important level. -/
def read? (s : String) : Option LogLevel :=
  let name := String.ofList (s.toList.map Char.toLower)
  if name = "silent" then some .error else all.lookup name

/-- Whether an event of level `l` is logged when `least` is asked for. -/
def admits (least l : LogLevel) : Bool :=
  least.rank ≤ l.rank

end LogLevel

/-- The parts of the program that log. -/
inductive Phase where
  | loader
  | engine
  | library
  | cli
deriving DecidableEq, Repr

namespace Phase

def all : List Phase :=
  [.loader, .engine, .library, .cli]

/-- The name by which log lines show a part. -/
def target : Phase → String
  | .loader => "slate::loader"
  | .engine => "slate::engine"
  | .library => "slate::library"
  | .cli => "slate::cli"

end Phase

/-- How much is logged: one level for all, which some parts may override. -/
structure LogTargets where
  /-- The level for all. -/
  overall : LogLevel := .info
  /-- The level of the loader. -/
  loader : Option LogLevel := none
  /-- The level of the engine. -/
  engine : Option LogLevel := none
  /-- The level of library calls. -/
  library : Option LogLevel := none
deriving DecidableEq, Repr, Inhabited

/-- The level that holds for a part. -/
def LogTargets.levelFor (t : LogTargets) : Phase → LogLevel
  | .loader => t.loader.getD t.overall
  | .engine => t.engine.getD t.overall
  | .library => t.library.getD t.overall
  | .cli => t.overall

end StackScript
