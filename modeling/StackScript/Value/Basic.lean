import StackScript.Entries
import StackScript.Number.Text

/-!
# Values

A value is a number, a string, a boolean or an array, and an array holds values under string keys.
A string that is written as a number can stand for that number everywhere: `Value.number?` is its
reading.
-/

namespace StackScript

/-- What programs compute with. -/
inductive Value where
  /-- A number. -/
  | number (n : Float)
  /-- A string. -/
  | string (s : String)
  /-- A truth value. -/
  | boolean (b : Bool)
  /-- Values under distinct keys, in the order in which the keys came. -/
  | array (entries : List (String × Value))
deriving Inhabited

def Boolean.text (b : Bool) : String :=
  if b then "True" else "False"

/-- Whether a text spells the truth value, in any mixture of ASCII cases. -/
def Boolean.spelledBy (b : Bool) (s : String) : Bool :=
  s.toList.map Char.toLower == (Boolean.text b).toList.map Char.toLower

namespace Value

/-- The sorts of values. -/
inductive Kind where
  | number
  | string
  | boolean
  | array
deriving DecidableEq, Repr

namespace Kind

def all : List (String × Kind) :=
  [("Number", .number), ("String", .string), ("Boolean", .boolean), ("Array", .array)]

def name : Kind → String
  | .number => "Number"
  | .string => "String"
  | .boolean => "Boolean"
  | .array => "Array"

end Kind

def kind : Value → Kind
  | number _ => .number
  | string _ => .string
  | boolean _ => .boolean
  | array _ => .array

/-- The empty string, which stands for everything that was never stored. -/
def empty : Value :=
  string ""

def isArray : Value → Bool
  | array _ => true
  | _ => false

/-- The entries of an array; any other value has none. -/
def entries : Value → Entries Value
  | array es => es
  | _ => []

/-- The value as a number, if it is one or is a string that reads as one. -/
def number? : Value → Option Float
  | number n => some n
  | string s => Number.read? s
  | boolean _ | array _ => none

/-- The value with a string that reads as a number replaced by that number. -/
def toNumber : Value → Value
  | string s =>
    match Number.read? s with
    | some n => number n
    | none => string s
  | v => v

def truth : Value → Bool
  | number n => Number.truth n
  | string s => s ≠ ""
  | boolean b => b
  | array _ => false

/-- A string between quotes, as it stands. -/
def quote (s : String) : String :=
  "\"" ++ s ++ "\""

mutual

/-- The value as a debugger shows it: strings are quoted. -/
def shown : Value → String
  | number n => Number.text n
  | string s => quote s
  | boolean b => Boolean.text b
  | array es => "[" ++ ", ".intercalate (shownEntries es) ++ "]"

/-- The entries of an array as a debugger shows them. -/
def shownEntries : List (String × Value) → List String
  | [] => []
  | (key, v) :: rest => (key ++ "=" ++ v.shown) :: shownEntries rest

end

/-- The value as a text: a string is itself, everything else is as a debugger shows it. -/
def text : Value → String
  | string s => s
  | v => v.shown

mutual

/-- Whether two values are the same sort and equal all the way down, entry order included. Numbers
are compared as numbers, so the value that is not a number differs from itself. -/
def identical : Value → Value → Bool
  | number m, number n => m == n
  | string s, string t => s == t
  | boolean a, boolean b => a == b
  | array es, array fs => identicalEntries es fs
  | _, _ => false

/-- Whether two arrays have the same keys in the same order, with identical values. -/
def identicalEntries : List (String × Value) → List (String × Value) → Bool
  | [], [] => true
  | (k, v) :: es, (l, w) :: fs => k == l && v.identical w && identicalEntries es fs
  | _, _ => false

end

/-- The value under a path of keys. -/
def at? (v : Value) : List String → Option Value
  | [] => some v
  | key :: path => (v.entries.get? key).bind (·.at? path)

/-- Changes what lies under a path of keys. Every level on the way becomes an array if it is none,
and what is missing counts as the empty string. -/
def modifyAt (f : Value → Value) (v : Value) : List String → Value
  | [] => f v
  | key :: path =>
    array (v.entries.insert key (modifyAt f ((v.entries.get? key).getD empty) path))

end Value

end StackScript
