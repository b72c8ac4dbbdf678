/-!
# Files that cannot be used

The reasons for which the system refuses a file, and how the system words them.
-/

namespace StackScript.Command

/-- Why a file cannot be read or opened. -/
inductive FileError where
  /-- There is no such file. -/
  | missing
  /-- The file is closed to the user. -/
  | denied
  /-- The path leads through something that is no directory. -/
  | notDirectory
  /-- The file is a directory. -/
  | directory
  /-- The file holds something else than text. -/
  | notText
  /-- The system gave another reason. -/
  | other (reason : String)
deriving DecidableEq, Repr

def FileError.message : FileError → String
  | missing => "No such file or directory (os error 2)"
  | denied => "Permission denied (os error 13)"
  | notDirectory => "Not a directory (os error 20)"
  | directory => "Is a directory (os error 21)"
  | notText => "stream did not contain valid UTF-8"
  | other reason => reason

end StackScript.Command
