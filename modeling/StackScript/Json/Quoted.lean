import StackScript.Json.Reader

/-!
# Strings in JSON texts

A string is written with the fewest escapes that JSON allows. Any escape is read; two escapes that
form a surrogate pair are one character, and a surrogate without its other half is refused.
-/

namespace StackScript.Json

/-- A digit of a hexadecimal number below sixteen. -/
def hexDigit (n : Nat) : Char :=
  Nat.digitChar n

/-- One character of a written string. -/
def escapeChar (c : Char) : List Char :=
  match c with
  | '"' => ['\\', '"']
  | '\\' => ['\\', '\\']
  | '\x08' => ['\\', 'b']
  | '\x0c' => ['\\', 'f']
  | '\n' => ['\\', 'n']
  | '\r' => ['\\', 'r']
  | '\t' => ['\\', 't']
  | c =>
    if c.toNat < 0x20 then
      ['\\', 'u', '0', '0', hexDigit (c.toNat / 16), hexDigit (c.toNat % 16)]
    else
      [c]

def quote (s : String) : String :=
  String.ofList ('"' :: (s.toList.flatMap escapeChar ++ ['"']))

def hexValue? (c : Char) : Option Nat :=
  if c.isDigit then some (c.toNat - '0'.toNat)
  else if 'a' ≤ c ∧ c ≤ 'f' then some (c.toNat - 'a'.toNat + 10)
  else if 'A' ≤ c ∧ c ≤ 'F' then some (c.toNat - 'A'.toNat + 10)
  else none

/-- The number written by four hexadecimal digits. -/
def hexNumber? (a b c d : Char) : Option Nat := do
  let a ← hexValue? a
  let b ← hexValue? b
  let c ← hexValue? c
  let d ← hexValue? d
  return ((a * 16 + b) * 16 + c) * 16 + d

namespace Reader

def hexEscape : Reader Nat :=
  fun cs ↦
    let flaw : Flaw :=
      if byteLength cs < 4 then ⟨.endOf .string, some 0⟩
      else ⟨.invalidEscape, some (byteLength cs - 4)⟩
    match cs with
    | a :: b :: c :: d :: rest =>
      match hexNumber? a b c d with
      | some n => (.ok n, rest)
      | none => (.error flaw, cs)
    | _ => (.error flaw, cs)

/-- Drops a character that has to come next between the halves of a surrogate pair. -/
def pairChar (expected : Char) : Reader Unit := do
  match ← peek? with
  | none => here (.endOf .string)
  | some c => if c = expected then skip else next .endOfHexEscape

/-- Reads a character written by its number, behind the `u`. -/
def numberedChar : Reader Char := do
  let n ← hexEscape
  if 0xDC00 ≤ n ∧ n ≤ 0xDFFF then
    here .loneSurrogate
  else if 0xD800 ≤ n ∧ n ≤ 0xDBFF then
    pairChar '\\'
    pairChar 'u'
    let m ← hexEscape
    if 0xDC00 ≤ m ∧ m ≤ 0xDFFF then
      return Char.ofNat (0x10000 + (n - 0xD800) * 0x400 + (m - 0xDC00))
    else
      here .loneSurrogate
  else
    return Char.ofNat n

/-- The character of an escape with one letter. -/
def escaped? : Char → Option Char
  | '"' => some '"'
  | '\\' => some '\\'
  | '/' => some '/'
  | 'b' => some '\x08'
  | 'f' => some '\x0c'
  | 'n' => some '\n'
  | 'r' => some '\r'
  | 't' => some '\t'
  | _ => none

/-- Reads an escape behind its backslash. -/
def escapedChar : Reader Char := do
  match ← peek? with
  | none => here (.endOf .string)
  | some 'u' =>
    skip
    numberedChar
  | some c =>
    match escaped? c with
    | some d =>
      skip
      return d
    | none => next .invalidEscape

/-- Reads the characters of a string up to its closing quote; `read` holds those already read, the
last one first. -/
def stringFrom (read : List Char) : List Char → Reader String
  | [] => return String.ofList read.reverse
  | _ :: rounds => do
    match ← peek? with
    | none => here (.endOf .string)
    | some '"' =>
      skip
      return String.ofList read.reverse
    | some '\\' =>
      skip
      let c ← escapedChar
      stringFrom (c :: read) rounds
    | some c =>
      if c.toNat < 0x20 then
        next .controlCharacter
      else
        skip
        stringFrom (c :: read) rounds

/-- Reads a string behind its opening quote. -/
def stringBody : Reader String :=
  bounded (stringFrom [])

/-- Reads a string, at whose opening quote the reader stands. -/
def string : Reader String := do
  skip
  stringBody

end Reader

end StackScript.Json
