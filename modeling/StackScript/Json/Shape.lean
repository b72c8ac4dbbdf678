import StackScript.Json.Numeral
import StackScript.Json.Skip
import StackScript.Number.Style
import StackScript.Text.Quoted

/-!
# Reading what was asked for

Readers of booleans, numbers, strings, lists, objects, records and variants. Each says what it
expected when something else comes. A record may be written as an object, in which the fields come
in any order and unknown ones are dropped, or as a list of its fields in order. A variant is written
as its name, or as an object with its name as the only key if something belongs to it.

Lists, objects and variants may nest 127 levels deep: `depth` is the number of levels that may still
be entered.
-/

namespace StackScript.Json

/-- The text of numbers in JSON: in full with at most 16 digits before the point and at most four
zeros behind it, always with a point or an exponent. What is no number has no text of its own. -/
def numberStyle : Style where
  plain e := -5 ≤ e ∧ e ≤ 15
  keepsPoint := true
  signsZero := true
  tie := .even
  notANumber := "null"
  infinity := "null"
  negativeInfinity := "null"

/-- How a message names a number that was found. -/
def Num.found : Num → String
  | natural n => "integer " ++ Cause.ticked (toString n)
  | negative n => "integer " ++ Cause.ticked ("-" ++ toString n)
  | float x => "floating point " ++ Cause.ticked (numberStyle.text x)

namespace Reader

variable {α : Type}

/-- A flaw that names what comes next in place of what was expected. -/
def wrongType (expected : String) : Reader α := do
  let mismatched (found : String) : Reader α := mismatch (.invalidType found expected)
  match ← peek? with
  | some 'n' =>
    literal ['n', 'u', 'l', 'l']
    mismatched "null"
  | some 't' =>
    literal ['t', 'r', 'u', 'e']
    mismatched ("boolean " ++ Cause.ticked "true")
  | some 'f' =>
    literal ['f', 'a', 'l', 's', 'e']
    mismatched ("boolean " ++ Cause.ticked "false")
  | some '"' =>
    let s ← string
    mismatched ("string " ++ Text.quoted s)
  | some '[' => mismatched "sequence"
  | some '\x7b' => mismatched "map"
  | c =>
    if c = some '-' ∨ c.any Char.isDigit then
      let n ← Num.read
      mismatched n.found
    else
      next .expectedValue

def boolean : Reader Bool := placed do
  match ← valueStart with
  | 't' =>
    literal ['t', 'r', 'u', 'e']
    return true
  | 'f' =>
    literal ['f', 'a', 'l', 's', 'e']
    return false
  | _ => wrongType "a boolean"

def text : Reader String := placed do
  match ← valueStart with
  | '"' => string
  | _ => wrongType "a string"

/-- Reads `null`. -/
def unit : Reader Unit := placed do
  match ← valueStart with
  | 'n' => literal ['n', 'u', 'l', 'l']
  | _ => wrongType "unit"

def float : Reader Float := placed do
  let c ← valueStart
  if c = '-' ∨ c.isDigit then
    return (← Num.read).toFloat
  else
    wrongType "f64"

/-- Reads a natural number of 64 bits. -/
def natural : Reader Nat := placed do
  let c ← valueStart
  if c = '-' ∨ c.isDigit then
    match ← Num.read with
    | .natural n => return n
    | .negative n => mismatch (.invalidValue (Num.negative n).found "usize")
    | .float x => mismatch (.invalidType (Num.float x).found "usize")
  else
    wrongType "usize"

/-! ## Lists and objects -/

/-- Enters a construct, at whose opening bracket the reader stands. -/
def enter (depth : Nat) : Reader Unit :=
  if depth = 0 then next .recursionLimit else skip

/-- Whether another element of a list comes; then the reader stands before it. -/
def moreElements (first : Bool) : Reader Bool := do
  match ← token? with
  | none => next (.endOf .list)
  | some ']' => return false
  | some c =>
    if first then
      return true
    else if c = ',' then
      skip
      match ← token? with
      | none => next (.endOf .value)
      | some ']' => next .trailingComma
      | some _ => return true
    else
      next .expectedCommaOrBracket

def endOfList : Reader Unit := do
  match ← token? with
  | none => next (.endOf .list)
  | some ']' => skip
  | some ',' =>
    skip
    if (← token?) = some ']' then next .trailingComma else next .trailingCharacters
  | some _ => next .trailingCharacters

/-- Whether another key of an object comes; then the reader stands at its quote. -/
def moreKeys (first : Bool) : Reader Bool := do
  match ← token? with
  | none => next (.endOf .object)
  | some '\x7d' => return false
  | some c =>
    if first then
      if c = '"' then return true else next .keyMustBeString
    else if c = ',' then
      skip
      match ← token? with
      | none => next (.endOf .value)
      | some '"' => return true
      | some '\x7d' => next .trailingComma
      | some _ => next .keyMustBeString
    else
      next .expectedCommaOrBrace

def endOfObject : Reader Unit := do
  match ← token? with
  | none => next (.endOf .object)
  | some '\x7d' => skip
  | some ',' => next .trailingComma
  | some _ => next .trailingCharacters

def colon : Reader Unit := do
  match ← token? with
  | none => next (.endOf .object)
  | some ':' => skip
  | some _ => next .expectedColon

def elements (element : Reader α) (first : Bool) : List Char → Reader (List α)
  | [] => return []
  | _ :: rounds => do
    if ← moreElements first then
      let a ← element
      let rest ← elements element false rounds
      return a :: rest
    else
      return []

def list (depth : Nat) (element : Reader α) : Reader (List α) := placed do
  match ← valueStart with
  | '[' =>
    enter depth
    closedBy (bounded (elements element true)) endOfList
  | _ => wrongType "a sequence"

def members (value : Reader α) (first : Bool) : List Char → Reader (List (String × α))
  | [] => return []
  | _ :: rounds => do
    if ← moreKeys first then
      let key ← string
      colon
      let a ← value
      let rest ← members value false rounds
      return (key, a) :: rest
    else
      return []

/-- Reads an object that maps keys to values. -/
def map (depth : Nat) (value : Reader α) : Reader (List (String × α)) := placed do
  match ← valueStart with
  | '\x7b' =>
    enter depth
    closedBy (bounded (members value true)) endOfObject
  | _ => wrongType "a map"

end Reader

/-! ## Records -/

/-- A field of a record: its name, whether it has to be there, and how its value is read and put
into the record. -/
structure Field (α : Type) where
  /-- The name of the field. -/
  name : String
  /-- Whether the field has to be there. -/
  required : Bool := true
  /-- Reads the value of the field. -/
  read : Reader (α → α)

/-- A record as far as it has been read. -/
structure Partial (α : Type) where
  /-- The record, in which fields that have not been read have their defaults. -/
  record : α
  /-- The names of the fields that have been read. -/
  seen : List String := []

namespace Reader

variable {α : Type}

/-- The field of a reader's value. -/
def into {β : Type} (r : Reader β) (set : α → β → α) : Reader (α → α) := do
  let b ← r
  return fun a ↦ set a b

/-- Ends the fields of an object: every field that has to be there was there. -/
def complete (fields : List (Field α)) (p : Partial α) : Reader α :=
  match fields.find? fun f ↦ f.required && !p.seen.contains f.name with
  | some f => mismatch (.missingField f.name)
  | none => pure p.record

/-- Reads the fields of an object. -/
def objectFields (fields : List (Field α)) (first : Bool) (p : Partial α) :
    List Char → Reader α
  | [] => return p.record
  | _ :: rounds => do
    if ← moreKeys first then
      let key ← string
      match fields.find? (·.name == key) with
      | some f =>
        if p.seen.contains key then
          mismatch (.duplicateField key)
        else
          colon
          let set ← f.read
          objectFields fields false ⟨set p.record, key :: p.seen⟩ rounds
      | none =>
        colon
        skipValue
        objectFields fields false p rounds
    else
      complete fields p

/-- How many elements a record has, in words. -/
def elementCount : Nat → String
  | 1 => "1 element"
  | n => toString n ++ " elements"

/-- Reads the fields of a list, of which `n` have been read. -/
def listFields (expected : String) (n : Nat) (a : α) : List (Field α) → Reader α
  | [] => return a
  | f :: rest => do
    if ← moreElements (n == 0) then
      let set ← f.read
      listFields expected (n + 1) (set a) rest
    else if f.required then
      mismatch (.invalidLength n expected)
    else
      listFields expected (n + 1) a rest

/-- Reads a record. `noun` is what messages call it, and `start` holds the defaults. -/
def record (noun : String) (start : α) (depth : Nat) (fields : List (Field α)) : Reader α :=
  placed do
    match ← valueStart with
    | '\x7b' =>
      enter depth
      closedBy (bounded (objectFields fields true ⟨start, []⟩)) endOfObject
    | '[' =>
      enter depth
      let expected := noun ++ " with " ++ elementCount fields.length
      closedBy (listFields expected 0 start fields) endOfList
    | _ => wrongType noun

end Reader

/-! ## Variants -/

/-- A case of a variant: alone, or with something that belongs to it. -/
inductive Case (α : Type) where
  /-- The name says it all. -/
  | plain (a : α)
  /-- Something of the given shape belongs to the name. -/
  | carrying (shape : String) (read : Reader α)

/-- Reads what belongs to a case: `null` if its name says it all. -/
def Case.payload {α : Type} : Case α → Reader α
  | .plain a => do
    Reader.unit
    return a
  | .carrying _ read => read

namespace Reader

variable {α : Type}

/-- The case with a name that was just read. -/
def caseOf (cases : List (String × Case α)) (name : String) : Reader (Case α) := placed do
  match cases.lookup name with
  | some c => return c
  | none => mismatch (.unknownVariant name (cases.map (·.1)))

/-- Reads a variant. What belongs to a case is read one level further in. -/
def variant (depth : Nat) (cases : List (String × Case α)) : Reader α := do
  match ← valueStart with
  | '"' =>
    match ← caseOf cases (← string) with
    | .plain a => return a
    | .carrying shape _ => mismatch (.invalidType "unit variant" shape)
  | '\x7b' =>
    enter depth
    match ← token? with
    | none => next (.endOf .object)
    | some '\x7d' => next .expectedValue
    | some '"' =>
      let c ← caseOf cases (← string)
      colon
      let a ← c.payload
      match ← token? with
      | none => here (.endOf .object)
      | some '\x7d' =>
        skip
        return a
      | some _ => here .expectedValue
    | some _ => next .keyMustBeString
  | _ => next .expectedValue

/-- Reads a variant whose names say it all. -/
def name (depth : Nat) (names : List (String × α)) : Reader α :=
  variant depth (names.map fun (s, a) ↦ (s, .plain a))

end Reader

/-! ## Whole texts -/

/-- A text that cannot be read: why, and where. Line and column are zero if no place is known. -/
structure Error where
  /-- What is wrong. -/
  cause : Cause
  /-- The line, counted from one. -/
  line : Nat
  /-- The number of bytes of the line before the place. -/
  column : Nat
deriving DecidableEq, Repr

namespace Error

/-- The message, with its place if it has one. -/
def message (e : Error) : String :=
  if e.line = 0 then
    e.cause.message
  else
    e.cause.message ++ " at line " ++ toString e.line ++ " column " ++ toString e.column

end Error

/-- The line and column `n` bytes further on from the given ones. -/
def placeAfter (n line column : Nat) : List Char → Nat × Nat
  | [] => (line, column + n)
  | c :: cs =>
    if n = 0 then (line, column)
    else if c = '\n' then placeAfter (n - 1) (line + 1) 0 cs
    else placeAfter (n - c.utf8Size) line (column + min n c.utf8Size) cs

/-- The error that a flaw is in a text. -/
def Flaw.inText (f : Flaw) (text : List Char) : Error :=
  match f.left with
  | none => ⟨f.cause, 0, 0⟩
  | some left =>
    let (line, column) := placeAfter (byteLength text - left) 1 0 text
    ⟨f.cause, line, column⟩

/-- How many levels a text may nest. -/
def maxDepth : Nat := 127

/-- Reads a whole text: nothing but white space may follow. -/
def parse {α : Type} (read : Nat → Reader α) (s : String) : Except Error α :=
  let whole : Reader α := do
    let a ← read maxDepth
    match ← Reader.token? with
    | none => return a
    | some _ => Reader.next .trailingCharacters
  match (whole s.toList).1 with
  | .ok a => .ok a
  | .error f => .error (f.inText s.toList)

end StackScript.Json
