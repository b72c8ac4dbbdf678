import StackScript.Command.FileError
import StackScript.Command.Options
import StackScript.Source.Context

/-!
# The answer to a command line

What is printed and the exit code, given what reading the files came to. Mistakes are found in a
fixed order: log levels, the log file, the program file, the source file, then those of the program
itself.
-/

namespace StackScript.Command

/-- What a command prints and how it exits. -/
structure Response where
  /-- The exit code. -/
  code : Nat
  /-- What goes to the standard output. -/
  output : String := ""
  /-- What goes to the error output. -/
  errors : String := ""
deriving DecidableEq, Repr, Inhabited

/-- What reading the files came to. -/
structure Files where
  /-- Opening the log file. -/
  log : Except FileError Unit
  /-- The program text. -/
  program : Except FileError String
  /-- The source text, if a source file was named. -/
  source : Except FileError (Option String)

/-- Lines of text, each with its end. -/
def unlines (lines : List String) : String :=
  "".intercalate (lines.map (· ++ "\n"))

/-- The response to a mistake in the command. -/
def refusal (reason : String) : Response :=
  { code := 1, errors := unlines ["Error: " ++ reason] }

def level (name : String) : Except String LogLevel :=
  match LogLevel.read? name with
  | some l => .ok l
  | none => .error ("Unknown log level '" ++ name ++ "'")

namespace Options

/-- How much is logged. The engine's level is looked at first. -/
def logTargets (o : Options) : Except String LogTargets := do
  let engine ← o.engineLogLevel.mapM level
  let overall ← level o.logLevel
  return { overall := overall, engine := engine }

/-- How the program is run. -/
def settings (o : Options) : RunSettings where
  limits :=
    { stackSize := o.maxStackSize.getD ({} : Limits).stackSize
      callDepth := o.maxCallDepth.getD ({} : Limits).callDepth }
  dump := o.dumpProgram

end Options

/-- A control character that terminals act on, written by its number in the log. -/
def logChar (c : Char) : List Char :=
  if c = '\x1b' ∨ c = '\x07' ∨ c = '\x08' ∨ c = '\x0c' ∨ c = '\x7f' then
    ['\\', 'x', Nat.digitChar (c.toNat / 16), Nat.digitChar (c.toNat % 16)]
  else if 0x80 ≤ c.toNat ∧ c.toNat ≤ 0x9f then
    ['\\', 'u', '\x7b'] ++ Text.hex c.toNat ++ ['\x7d']
  else
    [c]

def logLine (e : Event) : String :=
  Source.padLeft 5 e.level.label ++ " " ++ e.phase.target ++ ": " ++
    String.ofList (e.message.toList.flatMap logChar) ++ e.fieldsText

def admits (targets : LogTargets) (e : Event) : Bool :=
  (targets.levelFor e.phase).admits e.level

/-- Whether the events of single steps can be logged. -/
def detailed (targets : LogTargets) : Bool :=
  Phase.all.any fun phase ↦ (targets.levelFor phase).admits .trace

/-- What is printed about the outcome of a run. -/
def outcomeLines (o : Options) (outcome : Outcome) : List String :=
  outcome.value.toList.map Value.text ++
    if o.showBindings then
      outcome.bindings.toList.map fun (name, v) ↦ name ++ " = " ++ v.shown
    else
      []

def errorContext (source : Option String) (e : RunError) : List String :=
  match source, e.diagnostic? with
  | some text, some d => Source.context text d.range.start.line d.range.start.column
  | _, _ => []

/-- The response to the end of a run, behind the log. -/
def conclusion (o : Options) (source : Option String) (log : List String) :
    Except RunError Outcome → Response
  | .ok outcome => ⟨0, unlines (outcomeLines o outcome), unlines log⟩
  | .error e =>
    if o.json then
      ⟨1, unlines [e.report.json], unlines log⟩
    else
      ⟨1, "", unlines (log ++ ("error: " ++ e.report.text) :: errorContext source e)⟩

/-- Runs the program of a command, if the run ends within `fuel` steps. -/
def perform (fuel : Nat) (path : String) (o : Options) (targets : LogTargets)
    (program : String) (source : Option String) : Option Response :=
  (Execution.ofText o.settings (detailed targets) fuel program).map fun x ↦
    let events := .invoked path o.settings.limits o.settings.dump :: x.events
    conclusion o source ((events.filter (admits targets)).map logLine) x.result

def unreadable (path : String) (e : FileError) : String :=
  "Cannot read '" ++ path ++ "': " ++ e.message

/-- The response to the options of a command, given what reading its files came to. -/
def Options.respond (o : Options) (fuel : Nat) (path : String) (files : Files) :
    Option Response :=
  match o.logTargets with
  | .error reason => some (refusal reason)
  | .ok targets =>
    match files.log, files.program, files.source with
    | .error e, _, _ =>
      some (refusal ("Cannot open log file '" ++ o.logFile.getD "" ++ "': " ++ e.message))
    | .ok _, .error e, _ => some (refusal (unreadable path e))
    | .ok _, .ok _, .error e => some (refusal (unreadable (o.source.getD "") e))
    | .ok _, .ok program, .ok source => perform fuel path o targets program source

def versionLine : String := "slate 0.1.0"

def usageLine : String := "Usage: slate [OPTIONS] <PROGRAM>"

/-- The response to a command line that runs nothing. -/
def Invocation.immediate? : Invocation → Option Response
  | .version => some { code := 0, output := unlines [versionLine] }
  | .help => some { code := 0, output := unlines [usageLine] }
  | .misuse => some { code := 2, errors := unlines [usageLine] }
  | .run _ _ => none

end StackScript.Command
