import StackScript.Text.Quoted
import StackScript.Value.Basic

/-!
# Operations

The instruction set. Operations are data; what they do is the business of the machine.
-/

namespace StackScript

/-- An operation of the machine. -/
inductive Op where
  /-- Pushes a number. -/
  | pushNumber (n : Float)
  /-- Pushes a string. -/
  | pushString (s : String)
  /-- Pushes a truth value. -/
  | pushBoolean (b : Bool)
  /-- Pushes an array. -/
  | pushArray (entries : Entries Value)
  /-- Drops the top value. -/
  | pop
  /-- Pushes the top value once more. -/
  | duplicate
  /-- Pushes the value of a variable. -/
  | loadVariable (name : String)
  /-- Moves the top value into a variable. -/
  | storeVariable (name : String)
  /-- Pushes the element of a variable under as many indices, which it takes from the stack. -/
  | loadElement (name : String) (indices : Nat)
  /-- Moves the top value into the element of a variable under as many indices, which lie below
  it. -/
  | storeElement (name : String) (indices : Nat)
  /-- Adds or joins the two top values. -/
  | add
  /-- Subtracts the top value from the one below it. -/
  | subtract
  /-- Multiplies the two top values. -/
  | multiply
  /-- Divides the value below the top by the top value. -/
  | divide
  /-- Turns the sign of the top value. -/
  | negate
  /-- Compares the two top values for equality. -/
  | compareEqual
  /-- Compares the two top values for inequality. -/
  | compareNotEqual
  /-- Whether the value below the top is less than the top value. -/
  | compareLessThan
  /-- Whether the value below the top is greater than the top value. -/
  | compareGreaterThan
  /-- Whether the value below the top is less than the top value or equal to it. -/
  | compareLessThanOrEqual
  /-- Whether the value below the top is greater than the top value or equal to it. -/
  | compareGreaterThanOrEqual
  /-- Replaces the top value by its truth. -/
  | toBoolean
  /-- Goes on at the target. -/
  | jump (target : Nat)
  /-- Takes the top value and goes on at the target if it counts as true. -/
  | jumpIfTrue (target : Nat)
  /-- Takes the top value and goes on at the target unless it counts as true. -/
  | jumpIfFalse (target : Nat)
  /-- Goes on at the target until the matching return. -/
  | call (target : Nat)
  /-- Goes on after the call that is furthest in. -/
  | ret
  /-- Calls a library method with as many arguments from the stack. -/
  | callLibrary (library method : String) (arguments : Nat)
  /-- Ends the run. -/
  | halt
deriving Inhabited

namespace Op

def name : Op → String
  | pushNumber _ => "PushNumber"
  | pushString _ => "PushString"
  | pushBoolean _ => "PushBoolean"
  | pushArray _ => "PushArray"
  | pop => "Pop"
  | duplicate => "Duplicate"
  | loadVariable _ => "LoadVariable"
  | storeVariable _ => "StoreVariable"
  | loadElement _ _ => "LoadArrayElement"
  | storeElement _ _ => "StoreArrayElement"
  | add => "Add"
  | subtract => "Subtract"
  | multiply => "Multiply"
  | divide => "Divide"
  | negate => "Negate"
  | compareEqual => "CompareEqual"
  | compareNotEqual => "CompareNotEqual"
  | compareLessThan => "CompareLessThan"
  | compareGreaterThan => "CompareGreaterThan"
  | compareLessThanOrEqual => "CompareLessThanOrEqual"
  | compareGreaterThanOrEqual => "CompareGreaterThanOrEqual"
  | toBoolean => "ToBoolean"
  | jump _ => "Jump"
  | jumpIfTrue _ => "JumpIfTrue"
  | jumpIfFalse _ => "JumpIfFalse"
  | call _ => "Call"
  | ret => "Return"
  | callLibrary _ _ _ => "CallLibrary"
  | halt => "Halt"

/-- Where an operation may send control, if it names a place. -/
def target? : Op → Option Nat
  | jump t | jumpIfTrue t | jumpIfFalse t | call t => some t
  | _ => none

/-- Numbers in listings are written in full, however many digits that takes. -/
def numberStyle : Style where
  plain _ := true
  keepsPoint := false
  signsZero := true
  tie := .up
  notANumber := "NaN"
  infinity := "inf"
  negativeInfinity := "-inf"

/-- The operation as a line of a listing shows it. -/
def text (op : Op) : String :=
  match op with
  | pushNumber n => op.name ++ " " ++ numberStyle.text n
  | pushString s => op.name ++ " " ++ Text.quoted s
  | pushBoolean b => op.name ++ " " ++ (if b then "true" else "false")
  | pushArray es => op.name ++ " " ++ (Value.array es).shown
  | loadVariable x | storeVariable x => op.name ++ " " ++ x
  | loadElement x n | storeElement x n => op.name ++ " " ++ x ++ " [" ++ toString n ++ "]"
  | jump t | jumpIfTrue t | jumpIfFalse t | call t => op.name ++ " @" ++ toString t
  | callLibrary library method n =>
    op.name ++ " " ++ library ++ "." ++ method ++ "(" ++ toString n ++ ")"
  | _ => op.name

end Op

end StackScript
