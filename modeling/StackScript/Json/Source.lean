import StackScript.Json.Shape
import StackScript.Json.Writer
import StackScript.Source.Range

/-!
# Source places as JSON
-/

namespace StackScript.Json

def position (p : Position) : String :=
  object [("line", toString p.line), ("column", toString p.column)]

def range (r : Range) : String :=
  object [("start", position r.start), ("end", position r.stop)]

namespace Reader

def position (depth : Nat) : Reader Position :=
  record "struct Position" {} depth [
    { name := "line", read := natural.into fun p n ↦ { p with line := n } },
    { name := "column", read := natural.into fun p n ↦ { p with column := n } }]

def range (depth : Nat) : Reader Range :=
  record "struct SourceRange" {} depth [
    { name := "start", read := (position (depth - 1)).into fun r p ↦ { r with start := p } },
    { name := "end", read := (position (depth - 1)).into fun r p ↦ { r with stop := p } }]

end Reader

end StackScript.Json
