import StackScript.Execution

/-!
# Command-line options

One program file and options, each at most once. An option that takes a value takes the next
argument or what stands behind `=`; an argument that begins with a dash is never such a value. Behind
`--` every argument is a file.
-/

namespace StackScript.Command

/-- How log lines are laid out. -/
inductive LogFormat where
  | pretty
  | compact
  | json
deriving DecidableEq, Repr

/-- What was asked for on the command line. -/
structure Options where
  /-- The program file. -/
  program : Option String := none
  /-- The source text that the program came from. -/
  source : Option String := none
  /-- Whether failures are printed as JSON. -/
  json : Bool := false
  /-- Whether the variables are printed at the end. -/
  showBindings : Bool := false
  /-- Whether the program is listed in the log. -/
  dumpProgram : Bool := false
  /-- The limit of the operand stack. -/
  maxStackSize : Option Nat := none
  /-- The limit of nested calls. -/
  maxCallDepth : Option Nat := none
  /-- The name of the log level. -/
  logLevel : String := "warn"
  /-- The name of the engine's log level. -/
  engineLogLevel : Option String := none
  /-- How log lines are laid out. -/
  logFormat : LogFormat := .compact
  /-- A file for the log. -/
  logFile : Option String := none
deriving DecidableEq, Repr

/-- What a command line comes to. -/
inductive Invocation where
  /-- Run a program. -/
  | run (program : String) (o : Options)
  /-- Print the version. -/
  | version
  /-- Print how to use the command. -/
  | help
  /-- The command line makes no sense. -/
  | misuse
deriving DecidableEq, Repr

/-- What an option does: set something by itself, or by its value, which it may refuse. -/
inductive Setter where
  | flag (set : Options → Options)
  | valued (set : String → Options → Option Options)

/-- Reads a natural number of 64 bits, with an optional plus sign. -/
def natural? (s : String) : Option Nat :=
  let digits := if s.toList.head? = some '+' then s.toList.tail else s.toList
  let n := Nat.ofDigitChars 10 digits 0
  if digits ≠ [] ∧ digits.all Char.isDigit ∧ n < UInt64.size then some n else none

/-- A file name: any text but the empty one. -/
def file? (s : String) : Option String :=
  if s = "" then none else some s

def formats : List (String × LogFormat) :=
  [("pretty", .pretty), ("compact", .compact), ("json", .json)]

def setters : List (String × Setter) := [
  ("--source", .valued fun s o ↦ (file? s).map fun f ↦ { o with source := some f }),
  ("--json", .flag fun o ↦ { o with json := true }),
  ("--show-bindings", .flag fun o ↦ { o with showBindings := true }),
  ("--dump-program", .flag fun o ↦ { o with dumpProgram := true }),
  ("--max-stack-size", .valued fun s o ↦
    (natural? s).map fun n ↦ { o with maxStackSize := some n }),
  ("--max-call-depth", .valued fun s o ↦
    (natural? s).map fun n ↦ { o with maxCallDepth := some n }),
  ("--log-level", .valued fun s o ↦ some { o with logLevel := s }),
  ("--engine-log-level", .valued fun s o ↦ some { o with engineLogLevel := some s }),
  ("--log-format", .valued fun s o ↦
    (formats.lookup s).map fun f ↦ { o with logFormat := f }),
  ("--log-file", .valued fun s o ↦ (file? s).map fun f ↦ { o with logFile := some f })]

def positional (arg : String) (o : Options) : Option Options :=
  match o.program with
  | some _ => none
  | none => (file? arg).map fun f ↦ { o with program := some f }

def positionals (o : Options) : List String → Option Options
  | [] => some o
  | arg :: rest => (positional arg o).bind (positionals · rest)

/-- What the options come to once all arguments are read. -/
def conclude : Option Options → Invocation
  | none => .misuse
  | some o =>
    match o.program with
    | none => .misuse
    | some p => .run p o

/-- Splits an argument at its first equals sign. -/
def splitValue (arg : String) : String × Option String :=
  match arg.toList.dropWhile (· ≠ '=') with
  | [] => (arg, none)
  | _ :: value => (String.ofList (arg.toList.takeWhile (· ≠ '=')), some (String.ofList value))

/-- Whether an argument is an option or a group of them, and no value. -/
def isDashed (arg : String) : Bool :=
  arg.toList.head? = some '-' && arg ≠ "-"

/-- Reads the arguments into the options; `seen` holds the names of those already given. -/
def read (o : Options) (seen : List String) : List String → Invocation
  | [] => conclude (some o)
  | arg :: rest =>
    if arg = "--" then
      conclude (positionals o rest)
    else if !isDashed arg then
      match positional arg o with
      | some o => read o seen rest
      | none => .misuse
    else if arg = "--version" ∨ "-V".isPrefixOf arg then
      .version
    else if arg = "--help" ∨ "-h".isPrefixOf arg then
      .help
    else
      let (name, value) := splitValue arg
      if seen.contains name then
        .misuse
      else
        match setters.lookup name, value with
        | some (.flag set), none => read (set o) (name :: seen) rest
        | some (.valued set), some value =>
          match set value o with
          | some o => read o (name :: seen) rest
          | none => .misuse
        | some (.valued set), none =>
          match rest with
          | value :: rest =>
            if isDashed value then
              .misuse
            else
              match set value o with
              | some o => read o (name :: seen) rest
              | none => .misuse
          | [] => .misuse
        | _, _ => .misuse

def Invocation.ofArguments (args : List String) : Invocation :=
  read {} [] args

end StackScript.Command
