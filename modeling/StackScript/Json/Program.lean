import StackScript.Json.Source
import StackScript.Json.Value
import StackScript.Program.Basic

/-!
# Programs as JSON

A program is a record with the list of its instructions, an instruction is a record of an operation
and a range that may be left out, and an operation is a variant with the name of the operation.
-/

namespace StackScript.Json

/-- The JSON text of what belongs to an operation, if something does. -/
def operand? : Op → Option String
  | .pushNumber n => some (number n)
  | .pushString s => some (quote s)
  | .pushBoolean b => some (boolean b)
  | .pushArray es => some (entries es)
  | .loadVariable x | .storeVariable x => some (quote x)
  | .loadElement x n | .storeElement x n =>
    some (object [("name", quote x), ("indices", toString n)])
  | .jump t | .jumpIfTrue t | .jumpIfFalse t | .call t => some (toString t)
  | .callLibrary library method n => some (object
      [("library", quote library), ("method", quote method), ("arguments", toString n)])
  | _ => none

def op (o : Op) : String :=
  match operand? o with
  | some value => carrying o.name value
  | none => quote o.name

def instruction (i : Instruction) : String :=
  object [("op", op i.op), ("range", range i.range)]

def program (p : Program) : String :=
  object [("instructions", list (p.instructions.toList.map instruction))]

namespace Reader

/-- Reads a variable name and a number of indices. -/
def element (noun : String) (depth : Nat) : Reader (String × Nat) :=
  record noun ("", 0) depth [
    { name := "name", read := text.into fun e x ↦ (x, e.2) },
    { name := "indices", read := natural.into fun e n ↦ (e.1, n) }]

/-- Reads the names of a library and its method and a number of arguments. -/
def libraryCall (depth : Nat) : Reader (String × String × Nat) :=
  record "struct variant Op::CallLibrary" ("", "", 0) depth [
    { name := "library", read := text.into fun c x ↦ (x, c.2) },
    { name := "method", read := text.into fun c x ↦ (c.1, x, c.2.2) },
    { name := "arguments", read := natural.into fun c n ↦ (c.1, c.2.1, n) }]

/-- A case whose operand makes an operation. -/
def operand {α : Type} (r : Reader α) (make : α → Op) : Case Op :=
  .carrying "newtype variant" do return make (← r)

/-- The operations by name; what belongs to them is read with `depth` levels to go. -/
def opCases (depth : Nat) : List (String × Case Op) := [
  ("PushNumber", operand float .pushNumber),
  ("PushString", operand text .pushString),
  ("PushBoolean", operand boolean .pushBoolean),
  ("PushArray", operand (entries depth) .pushArray),
  ("Pop", .plain .pop),
  ("Duplicate", .plain .duplicate),
  ("LoadVariable", operand text .loadVariable),
  ("StoreVariable", operand text .storeVariable),
  ("LoadArrayElement", .carrying "struct variant" do
    let (x, n) ← element "struct variant Op::LoadArrayElement" depth
    return .loadElement x n),
  ("StoreArrayElement", .carrying "struct variant" do
    let (x, n) ← element "struct variant Op::StoreArrayElement" depth
    return .storeElement x n),
  ("Add", .plain .add),
  ("Subtract", .plain .subtract),
  ("Multiply", .plain .multiply),
  ("Divide", .plain .divide),
  ("Negate", .plain .negate),
  ("CompareEqual", .plain .compareEqual),
  ("CompareNotEqual", .plain .compareNotEqual),
  ("CompareLessThan", .plain .compareLessThan),
  ("CompareGreaterThan", .plain .compareGreaterThan),
  ("CompareLessThanOrEqual", .plain .compareLessThanOrEqual),
  ("CompareGreaterThanOrEqual", .plain .compareGreaterThanOrEqual),
  ("ToBoolean", .plain .toBoolean),
  ("Jump", operand natural .jump),
  ("JumpIfTrue", operand natural .jumpIfTrue),
  ("JumpIfFalse", operand natural .jumpIfFalse),
  ("Call", operand natural .call),
  ("Return", .plain .ret),
  ("CallLibrary", .carrying "struct variant" do
    let (library, method, n) ← libraryCall depth
    return .callLibrary library method n),
  ("Halt", .plain .halt)]

def op (depth : Nat) : Reader Op :=
  variant depth (opCases (depth - 1))

def instruction (depth : Nat) : Reader Instruction :=
  record "struct Instruction" default depth [
    { name := "op", read := (op (depth - 1)).into fun i o ↦ { i with op := o } },
    { name := "range", required := false
      read := (range (depth - 1)).into fun i r ↦ { i with range := r } }]

def program (depth : Nat) : Reader Program :=
  record "struct Program" default depth [
    { name := "instructions"
      read := (list (depth - 1) (instruction (depth - 2))).into fun _ is ↦ ⟨is.toArray⟩ }]

end Reader

end StackScript.Json

namespace StackScript.Program

/-- Reads a program from a JSON text. -/
def load (s : String) : Except Json.Error Program :=
  Json.parse Json.Reader.program s

end StackScript.Program
