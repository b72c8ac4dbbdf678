import StackScript.Value.Basic

/-!
# Libraries

A library is a name and what its methods do with their arguments. A method gives back a value,
nothing, or an error. A registry knows libraries by their names; registering a library replaces the
one that had its name.
-/

namespace StackScript

/-- Why a library call failed. -/
inductive LibraryError where
  /-- The library has no method of that name. -/
  | unknownMethod (name : String)
  /-- The method takes another number of arguments. -/
  | argumentCount (expected given : Nat)
  /-- The method cannot work with an argument. -/
  | invalidArgument (reason : String)
deriving DecidableEq, Repr

def LibraryError.message : LibraryError → String
  | unknownMethod name => "library has no method named '" ++ name ++ "'"
  | argumentCount expected given =>
    "takes exactly " ++ toString expected ++ " argument(s) (" ++ toString given ++ " given)"
  | invalidArgument reason => reason

/-- What a method does with its arguments. -/
abbrev Method := List Value → Except LibraryError (Option Value)

/-- A named collection of methods. -/
structure Library where
  /-- The name under which programs call it. -/
  name : String
  /-- Calls a method by name. -/
  call : String → Method

def Library.ofMethods (name : String) (methods : List (String × Method)) : Library where
  name := name
  call method arguments :=
    match methods.lookup method with
    | some f => f arguments
    | none => .error (.unknownMethod method)

/-- The libraries that a machine knows. -/
abbrev Registry := Entries Library

namespace Registry

/-- Adds a library; it replaces one of the same name. -/
def register (r : Registry) (l : Library) : Registry :=
  r.insert l.name l

def registerAll (r : Registry) (ls : List Library) : Registry :=
  ls.foldl register r

/-- The names of the libraries in order of their characters. -/
def names (r : Registry) : List String :=
  r.keys.mergeSort (· ≤ ·)

end Registry

namespace Method

def unary (f : Value → Except LibraryError (Option Value)) : Method
  | [a] => f a
  | arguments => .error (.argumentCount 1 arguments.length)

def binary (f : Value → Value → Except LibraryError (Option Value)) : Method
  | [a, b] => f a b
  | arguments => .error (.argumentCount 2 arguments.length)

def numeric (a : Value) : Except LibraryError Float :=
  match a.number? with
  | some n => .ok n
  | none => .error
      (.invalidArgument ("expected a number, got " ++ a.kind.name ++ " " ++ a.shown))

/-- A method that takes a number to a number. -/
def onNumber (f : Float → Float) : Method :=
  unary fun a ↦ do
    let x ← numeric a
    return some (.number (f x))

/-- A method that takes two numbers to a number. -/
def onNumbers (f : Float → Float → Float) : Method :=
  binary fun a b ↦ do
    let x ← numeric a
    let y ← numeric b
    return some (.number (f x y))

end Method

end StackScript
