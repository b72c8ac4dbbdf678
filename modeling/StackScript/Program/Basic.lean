import StackScript.Program.Op
import StackScript.Source.Range

/-!
# Programs

A program is a sequence of instructions, and an instruction is an operation with the source range
it came from. A program is valid when no operation names a place behind its end; the end itself is
a valid place, at which a run completes.
-/

namespace StackScript

/-- An operation with its place in the source. -/
structure Instruction where
  /-- What to do. -/
  op : Op
  /-- The source of the instruction. -/
  range : Range := {}
deriving Inhabited

/-- A sequence of instructions. -/
structure Program where
  /-- The instructions, numbered from zero. -/
  instructions : Array Instruction
deriving Inhabited

/-- An operation that names a place outside the program. -/
structure OutOfRange where
  /-- The number of the instruction. -/
  index : Nat
  /-- The name of its operation. -/
  op : String
  /-- The place that it names. -/
  target : Nat
  /-- The length of the program. -/
  length : Nat
deriving DecidableEq, Repr

def OutOfRange.message (e : OutOfRange) : String :=
  "instruction " ++ toString e.index ++ " (" ++ e.op ++ ") targets " ++ toString e.target ++
    ", outside 0..=" ++ toString e.length

namespace Program

def length (p : Program) : Nat :=
  p.instructions.size

def fetch? (p : Program) (pc : Nat) : Option Instruction :=
  p.instructions[pc]?

/-- The first operation in a list of instructions, numbered from `index`, that names a place behind
`length`. -/
def firstOutOfRange? (length index : Nat) : List Instruction → Option OutOfRange
  | [] => none
  | i :: rest =>
    match i.op.target? with
    | some t =>
      if length < t then
        some ⟨index, i.op.name, t, length⟩
      else
        firstOutOfRange? length (index + 1) rest
    | none => firstOutOfRange? length (index + 1) rest

/-- The first operation that names a place outside the program; `none` for a valid program. -/
def validate (p : Program) : Option OutOfRange :=
  firstOutOfRange? p.length 0 p.instructions.toList

/-- A number with zeros in front, at least four digits long. -/
def padNumber (n : Nat) : String :=
  let digits := toString n
  "".pushn '0' (4 - digits.length) ++ digits

/-- A text with blanks behind it, at least `width` characters long. -/
def padRight (width : Nat) (s : String) : String :=
  s.pushn ' ' (width - s.length)

/-- The lines of a listing from instruction `index` on. -/
def listingFrom (index : Nat) : List Instruction → List String
  | [] => []
  | i :: rest =>
    (padNumber index ++ " " ++ padRight 12 i.range.text ++ " " ++ i.op.text) ::
      listingFrom (index + 1) rest

/-- The program with one instruction a line. -/
def listing (p : Program) : String :=
  "\n".intercalate (listingFrom 0 p.instructions.toList)

end Program

end StackScript
