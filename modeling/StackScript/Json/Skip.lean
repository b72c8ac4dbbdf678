import StackScript.Json.Quoted

/-!
# Values that nobody asked for

A value under an unknown key is checked and dropped. It may nest to any depth, its numbers may have
any size and its escapes may name any surrogate.
-/

namespace StackScript.Json.Reader

/-- Drops an exponent, at whose mark the reader stands. -/
def skipExponent : Reader Unit := do
  skip
  let sign ← peek?
  if sign = some '+' ∨ sign = some '-' then
    skip
  if (← peek?).any Char.isDigit then
    skipWhile Char.isDigit
  else
    next .invalidNumber

def skipExponent? : Reader Unit := do
  let c ← peek?
  if c = some 'e' ∨ c = some 'E' then
    skipExponent

/-- Drops a number behind its sign. -/
def skipUnsigned : Reader Unit := do
  match ← peek? with
  | some '0' =>
    skip
    if (← peek?).any Char.isDigit then
      next .invalidNumber
  | c =>
    if c.any Char.isDigit then
      skipWhile Char.isDigit
    else
      next .invalidNumber
  if (← peek?) = some '.' then
    skip
    if (← peek?).any Char.isDigit then
      skipWhile Char.isDigit
    else
      next .invalidNumber
  skipExponent?

def skipEscape : Reader Unit := do
  match ← peek? with
  | none => here (.endOf .string)
  | some 'u' =>
    skip
    let _ ← hexEscape
  | some c => if (escaped? c).isSome then skip else next .invalidEscape

/-- Drops a string behind its opening quote. -/
def skipStringFrom : List Char → Reader Unit
  | [] => return ()
  | _ :: rounds => do
    match ← peek? with
    | none => here (.endOf .string)
    | some '"' => skip
    | some '\\' =>
      skip
      skipEscape
      skipStringFrom rounds
    | some c =>
      if c.toNat < 0x20 then
        here .controlCharacter
      else
        skip
        skipStringFrom rounds

/-- Drops a string, at whose opening quote the reader stands. -/
def skipString : Reader Unit := do
  skip
  bounded skipStringFrom

/-- The bracket of a construct that is not closed yet. -/
inductive Frame where
  | list
  | object
deriving DecidableEq

def Frame.construct : Frame → Construct
  | .list => .list
  | .object => .object

def Frame.closing : Frame → Char
  | .list => ']'
  | .object => '\x7d'

/-- What is missing between the members of a frame. -/
def Frame.separator : Frame → Cause
  | .list => .expectedCommaOrBracket
  | .object => .expectedCommaOrBrace

/-- Drops a value that is no list or object, or the opening bracket of one that is: then its frame
is given back. -/
def skipScalar : Reader (Option Frame) := do
  match ← valueStart with
  | 'n' =>
    literal ['n', 'u', 'l', 'l']
    return none
  | 't' =>
    literal ['t', 'r', 'u', 'e']
    return none
  | 'f' =>
    literal ['f', 'a', 'l', 's', 'e']
    return none
  | '"' =>
    skipString
    return none
  | '[' =>
    skip
    return some .list
  | '\x7b' =>
    skip
    return some .object
  | c =>
    if c = '-' then
      skip
      skipUnsigned
      return none
    else if c.isDigit then
      skipUnsigned
      return none
    else
      next .expectedValue

/-- Drops the key of a member and its colon. -/
def skipKey : Reader Unit := do
  match ← token? with
  | none => next (.endOf .object)
  | some '"' => skipString
  | some _ => next .keyMustBeString
  match ← token? with
  | none => next (.endOf .object)
  | some ':' => skip
  | some _ => next .expectedColon

/-- Drops what stands between one member and the next one that has a value: closing brackets of
frames, a comma, a key. It gives back the frames that are still open, which are none at the end of
the whole value. `comma` tells whether a member of the innermost frame was just dropped. -/
def skipBetween (comma : Bool) : List Frame → Reader (List Frame)
  | [] => return []
  | frame :: outer => do
    match ← token? with
    | none => next (.endOf frame.construct)
    | some c =>
      if comma ∧ c = ',' then
        skip
        if frame = .object then skipKey
        return frame :: outer
      else if c = frame.closing then
        skip
        skipBetween true outer
      else if comma then
        next frame.separator
      else
        if frame = .object then skipKey
        return frame :: outer

/-- Drops values until the frames are closed. -/
def skipFrom (frames : List Frame) : List Char → Reader Unit
  | [] => return ()
  | _ :: rounds => do
    let rest ←
      match ← skipScalar with
      | some frame => skipBetween false (frame :: frames)
      | none => skipBetween true frames
    if rest.isEmpty then
      return ()
    else
      skipFrom rest rounds

def skipValue : Reader Unit :=
  bounded (skipFrom [])

end StackScript.Json.Reader
