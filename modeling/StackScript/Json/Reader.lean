import StackScript.Json.Flaw

/-!
# Readers

A reader takes characters off the front of a text. It gives back what it read, or a flaw, and the
characters that are left; they matter after a mismatch too, since its place is where the construct
around it ends. Places count bytes, so that the place of a flaw inside a text is its length less
what is left.
-/

namespace StackScript.Json

/-- Takes a value off the front of a text. -/
def Reader (α : Type) : Type :=
  List Char → Except Flaw α × List Char

def byteLength (cs : List Char) : Nat :=
  cs.foldl (fun n c ↦ n + c.utf8Size) 0

namespace Reader

variable {α β : Type}

/-- Reads nothing. -/
def pure (a : α) : Reader α :=
  fun cs ↦ (.ok a, cs)

/-- Reads one thing, then another that may depend on it. -/
def bind (r : Reader α) (f : α → Reader β) : Reader β :=
  fun cs ↦
    match r cs with
    | (.ok a, rest) => f a rest
    | (.error e, rest) => (.error e, rest)

instance : Monad Reader where
  pure := Reader.pure
  bind := Reader.bind

/-- A flaw at the place where the reader stands. -/
def here (c : Cause) : Reader α :=
  fun cs ↦ (.error ⟨c, some (byteLength cs)⟩, cs)

/-- A flaw behind the next byte, or at the end of the text. -/
def next (c : Cause) : Reader α :=
  fun cs ↦ (.error ⟨c, some (byteLength cs - 1)⟩, cs)

/-- A flaw whose place is not known yet. -/
def mismatch (c : Cause) : Reader α :=
  fun cs ↦ (.error ⟨c, none⟩, cs)

/-- Gives a flaw without a place the place where the reader stands at its end. -/
def placed (r : Reader α) : Reader α :=
  fun cs ↦
    match r cs with
    | (.ok a, rest) => (.ok a, rest)
    | (.error e, rest) =>
      (.error ⟨e.cause, some (e.left.getD (byteLength rest))⟩, rest)

/-- Reads a body and then its end. After a flaw in the body the end is still read, as far as it goes,
and the flaw in the body is the one reported. -/
def closedBy (body : Reader α) (finish : Reader Unit) : Reader α :=
  fun cs ↦
    match body cs with
    | (.error e, rest) => (.error e, (finish rest).2)
    | (.ok a, rest) =>
      match finish rest with
      | (.ok _, rest) => (.ok a, rest)
      | (.error e, rest) => (.error e, rest)

/-- Runs a reader that goes round at most once for each item of a list. The characters that are left,
and one more, serve as that list: it is there already and is longer than the text. -/
def bounded (r : List Char → Reader α) : Reader α :=
  fun cs ↦ r (' ' :: cs) cs

/-- The next character, which stays. -/
def peek? : Reader (Option Char) :=
  fun cs ↦ (.ok cs.head?, cs)

def skip : Reader Unit :=
  fun cs ↦ (.ok (), cs.tail)

def skipWhile (p : Char → Bool) : Reader Unit :=
  fun cs ↦ (.ok (), cs.dropWhile p)

def isSpace (c : Char) : Bool :=
  c = ' ' || c = '\n' || c = '\t' || c = '\r'

/-- The next character behind white space, which stays. -/
def token? : Reader (Option Char) := do
  skipWhile isSpace
  peek?

/-- The first character of a value, which stays. -/
def valueStart : Reader Char := do
  match ← token? with
  | some c => return c
  | none => next (.endOf .value)

/-- Drops the given characters, which have to come next. -/
def literal : List Char → Reader Unit
  | [] => return ()
  | expected :: rest => do
    match ← peek? with
    | none => here (.endOf .value)
    | some c =>
      if c = expected then
        skip
        literal rest
      else
        next .expectedIdent

end Reader

end StackScript.Json
