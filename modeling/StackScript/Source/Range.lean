/-!
# Places in a source text

Lines and columns count from one. A range that starts where it ends is written as that one place.
-/

namespace StackScript

/-- A line and a column of the source text. -/
structure Position where
  /-- The line, counted from one. -/
  line : Nat := 1
  /-- The column, counted from one. -/
  column : Nat := 1
deriving DecidableEq, Repr, Inhabited

/-- The position as `line:column`. -/
def Position.text (p : Position) : String :=
  toString p.line ++ ":" ++ toString p.column

/-- The part of the source text that an instruction came from. -/
structure Range where
  /-- Where the range starts. -/
  start : Position := {}
  /-- Where the range ends. -/
  stop : Position := {}
deriving DecidableEq, Repr, Inhabited

namespace Range

/-- The range between two columns of one line. -/
def onLine (line first last : Nat) : Range :=
  ⟨⟨line, first⟩, ⟨line, last⟩⟩

/-- The range that is a single position. -/
def point (p : Position) : Range :=
  ⟨p, p⟩

/-- The range as `start-stop`, or as one position. -/
def text (r : Range) : String :=
  if r.start = r.stop then r.start.text else r.start.text ++ "-" ++ r.stop.text

end Range

end StackScript
