import StackScript.Command.Response

/-!
# The command line

Reads the files that the options name, runs the program until it ends, and prints the response.
-/

open StackScript StackScript.Command

namespace StackScript.Main

/-- The reason for a failed file operation. The number 20, under either sign, is that of a path
through something that is no directory. -/
def fileError : IO.Error → FileError
  | .noFileOrDirectory .. => .missing
  | .permissionDenied .. => .denied
  | .inappropriateType _ code _ => if code = 20 ∨ code = -20 then .notDirectory else .directory
  | e => .other (toString e)

def readText (path : String) : IO (Except FileError String) := do
  try
    match String.fromUTF8? (← IO.FS.readBinFile path) with
    | some text => return .ok text
    | none => return .error .notText
  catch e =>
    return .error (fileError e)

/-- Opens the log file, which makes it if it is not there. -/
def openLog : Option String → IO (Except FileError Unit)
  | none => return .ok ()
  | some path => do
    try
      let _ ← IO.FS.Handle.mk path .append
      return .ok ()
    catch e =>
      return .error (fileError e)

def readFiles (path : String) (o : Options) : IO Files := do
  let log ← openLog o.logFile
  let program ← readText path
  match o.source with
  | none => return ⟨log, program, .ok none⟩
  | some path =>
    let source ← readText path
    return ⟨log, program, source.map some⟩

/-- Responds with more and more steps until the run has ended. -/
partial def untilEnded (fuel : Nat) (respond : Nat → Option Response) : Response :=
  match respond fuel with
  | some r => r
  | none => untilEnded (fuel * 1024) respond

def respond (args : List String) : IO Response := do
  match Invocation.ofArguments args with
  | .run path o =>
    let files ←
      match o.logTargets with
      | .ok _ => readFiles path o
      | .error _ => pure ⟨.ok (), .ok "", .ok none⟩
    return untilEnded 1073741824 fun fuel ↦ o.respond fuel path files
  | other => return (other.immediate?).getD { code := 2 }

end StackScript.Main

def main (args : List String) : IO UInt32 := do
  let r ← StackScript.Main.respond args
  IO.print r.output
  IO.eprint r.errors
  return UInt32.ofNat r.code
