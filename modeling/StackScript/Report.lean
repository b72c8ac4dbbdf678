import StackScript.Json.Program
import StackScript.Json.Diagnostic

/-!
# Reports of failures

A text can fail to be a program, a program can fail to be valid, and a valid program can fail when
it runs. A report says the same things about all three.
-/

namespace StackScript

/-- Why a program text has no outcome. -/
inductive RunError where
  /-- The text is no program. -/
  | load (e : Json.Error)
  /-- The program is not valid. -/
  | invalid (e : OutOfRange)
  /-- The run failed. -/
  | runtime (d : Diagnostic)
deriving DecidableEq, Repr

/-- A failure in the terms that all failures share. -/
structure Report where
  /-- What was being done. -/
  phase : String
  /-- The line, if it is known. -/
  line : Option Nat
  /-- The column, if it is known. -/
  column : Option Nat
  /-- What sort of failure it is. -/
  kind : String
  /-- Whose mistake it is, for failures of a run. -/
  category : Option String
  /-- What is wrong. -/
  message : String
  /-- What the message is about. -/
  arguments : List String
deriving DecidableEq, Repr

namespace RunError

/-- The failure in one line. -/
def text : RunError → String
  | load e => "Load error: " ++ e.message
  | invalid e => "Invalid program: " ++ e.message
  | runtime d => "Runtime error: " ++ d.text

/-- A line or column that is known: none is zero. -/
def known (n : Nat) : Option Nat :=
  if n = 0 then none else some n

def report : RunError → Report
  | load e => ⟨"load", known e.line, known e.column, e.cause.grade.name, none, e.message, []⟩
  | invalid e => ⟨"validate", none, none, "InvalidProgram", none, e.message, []⟩
  | runtime d => ⟨"runtime", some d.range.start.line, some d.range.start.column, d.kind.name,
      some d.kind.category.label, d.message, d.arguments⟩

def diagnostic? : RunError → Option Diagnostic
  | runtime d => some d
  | _ => none

end RunError

namespace Report

/-- The report in one line, behind its place if both line and column are known. -/
def text (r : Report) : String :=
  let body := r.phase ++ " error: " ++ r.message
  match r.line, r.column with
  | some line, some column => "[" ++ toString line ++ ":" ++ toString column ++ "] " ++ body
  | _, _ => body

def json (r : Report) : String :=
  Json.object [
    ("phase", Json.quote r.phase),
    ("line", Json.optional (r.line.map toString)),
    ("column", Json.optional (r.column.map toString)),
    ("error_kind", Json.quote r.kind),
    ("category", Json.optional (r.category.map Json.quote)),
    ("message", Json.quote r.message),
    ("arguments", Json.list (r.arguments.map Json.quote))]

end Report

end StackScript
