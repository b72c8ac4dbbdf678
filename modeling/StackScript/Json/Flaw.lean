/-!
# What can be wrong with a JSON text

A flaw is a cause and a place. A text that ends too early is truncated, a text that is no JSON is
malformed, and a JSON text that does not describe what was asked for is a mismatch. The place is
kept as the number of bytes that are left behind it; a mismatch is found before its place is known
and gets one when the construct around it has been left.
-/

namespace StackScript.Json

/-- The construct in which a text ended. -/
inductive Construct where
  | value
  | string
  | list
  | object
deriving DecidableEq, Repr

/-- The construct with its article. -/
def Construct.text : Construct → String
  | .value => "a value"
  | .string => "a string"
  | .list => "a list"
  | .object => "an object"

/-- How far a text got before its flaw. -/
inductive Grade where
  /-- The text ends too early. -/
  | truncated
  /-- The text is no JSON. -/
  | malformed
  /-- The text is JSON and does not describe what was asked for. -/
  | mismatch
deriving DecidableEq, Repr

def Grade.name : Grade → String
  | .truncated => "Eof"
  | .malformed => "Syntax"
  | .mismatch => "Data"

/-- Why a text cannot be read. -/
inductive Cause where
  | endOf (c : Construct)
  | expectedIdent
  | expectedValue
  | expectedColon
  | expectedCommaOrBracket
  | expectedCommaOrBrace
  | keyMustBeString
  | trailingComma
  | trailingCharacters
  | invalidNumber
  | numberOutOfRange
  | controlCharacter
  | invalidEscape
  | loneSurrogate
  | endOfHexEscape
  | recursionLimit
  | invalidType (found expected : String)
  | invalidValue (found expected : String)
  | invalidLength (found : Nat) (expected : String)
  | unknownVariant (found : String) (expected : List String)
  | missingField (name : String)
  | duplicateField (name : String)
deriving DecidableEq, Repr

namespace Cause

def grade : Cause → Grade
  | endOf _ => .truncated
  | invalidType .. | invalidValue .. | invalidLength .. | unknownVariant ..
  | missingField _ | duplicateField _ => .mismatch
  | _ => .malformed

/-- A text between backticks. -/
def ticked (s : String) : String :=
  "`" ++ s ++ "`"

def message : Cause → String
  | endOf c => "EOF while parsing " ++ c.text
  | expectedIdent => "expected ident"
  | expectedValue => "expected value"
  | expectedColon => "expected `:`"
  | expectedCommaOrBracket => "expected `,` or `]`"
  | expectedCommaOrBrace => "expected `,` or `\x7d`"
  | keyMustBeString => "key must be a string"
  | trailingComma => "trailing comma"
  | trailingCharacters => "trailing characters"
  | invalidNumber => "invalid number"
  | numberOutOfRange => "number out of range"
  | controlCharacter =>
    "control character (\\u0000-\\u001F) found while parsing a string"
  | invalidEscape => "invalid escape"
  | loneSurrogate => "lone leading surrogate in hex escape"
  | endOfHexEscape => "unexpected end of hex escape"
  | recursionLimit => "recursion limit exceeded"
  | invalidType found expected => "invalid type: " ++ found ++ ", expected " ++ expected
  | invalidValue found expected => "invalid value: " ++ found ++ ", expected " ++ expected
  | invalidLength found expected =>
    "invalid length " ++ toString found ++ ", expected " ++ expected
  | unknownVariant found expected =>
    "unknown variant " ++ ticked found ++ ", expected one of " ++
      ", ".intercalate (expected.map ticked)
  | missingField name => "missing field " ++ ticked name
  | duplicateField name => "duplicate field " ++ ticked name

end Cause

/-- A cause and its place. -/
structure Flaw where
  /-- What is wrong. -/
  cause : Cause
  /-- How many bytes of the text are left behind the place, once it is known. -/
  left : Option Nat
deriving DecidableEq, Repr

end StackScript.Json
