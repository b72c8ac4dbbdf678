/-!
# The source around a place

The line of a place with up to two lines before and after it, numbered, and a caret under the
column, between two rules. All numbers are as wide as the last one printed, so that the bars of all
lines stand below one another.
-/

namespace StackScript.Source

/-- The text of a line without the carriage return that belongs to its end. -/
def withoutReturn (line : List Char) : List Char :=
  match line.reverse with
  | '\r' :: rest => rest.reverse
  | _ => line

/-- The lines of a text whose current line begins with `line`, last character first. What follows the
last line end is a line of its own only if it is not empty. -/
def linesFrom (line : List Char) : List Char → List (List Char)
  | [] => if line.isEmpty then [] else [line.reverse]
  | c :: cs =>
    if c = '\n' then withoutReturn line.reverse :: linesFrom [] cs else linesFrom (c :: line) cs

def lines (text : String) : List String :=
  (linesFrom [] text.toList).map String.ofList

/-- A text with blanks before it, at least `width` characters long. -/
def padLeft (width : Nat) (s : String) : String :=
  "".pushn ' ' (width - s.length) ++ s

def numberedLine (width n : Nat) (line : String) : String :=
  padLeft width (toString n) ++ " | " ++ line

/-- The line that points at a column, however far out; that so long a line may not fit into memory is
not modelled. -/
def caretLine (width column : Nat) : String :=
  "".pushn ' ' width ++ " | " ++ "".pushn ' ' (column - 1) ++ "^"

/-- The line that frames the context. -/
def ruleLine (width : Nat) : String :=
  "".pushn '-' (width + 1) ++ "|--"

/-- The given source lines, numbered from `n`, with the caret below line `line`. -/
def body (width line column : Nat) (n : Nat) : List String → List String
  | [] => []
  | s :: rest =>
    numberedLine width n s ::
      ((if n = line then [caretLine width column] else []) ++
        body width line column (n + 1) rest)

/-- How many lines are shown before and after the one with the place. -/
def reach : Nat := 2

/-- The lines that show a place in a source text; none if the text has no such line. -/
def context (text : String) (line column : Nat) : List String :=
  let all := lines text
  if line = 0 ∨ all.length < line then
    []
  else
    let first := max 1 (line - reach)
    let last := min all.length (line + reach)
    let width := (toString last).length
    let shown := (all.drop (first - 1)).take (last + 1 - first)
    ruleLine width :: body width line column first shown ++ [ruleLine width]

end StackScript.Source
