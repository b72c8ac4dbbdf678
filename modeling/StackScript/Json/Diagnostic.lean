import StackScript.Diagnostic.Basic
import StackScript.Json.Source

/-!
# Diagnostics as JSON
-/

namespace StackScript.Json

def kind (k : Diagnostic.Kind) : String :=
  quote k.name

def category (c : Diagnostic.Category) : String :=
  quote c.name

def diagnostic (d : Diagnostic) : String :=
  object [("kind", kind d.kind), ("range", range d.range),
    ("arguments", list (d.arguments.map quote))]

namespace Reader

def kind (depth : Nat) : Reader Diagnostic.Kind :=
  name depth Diagnostic.Kind.all

def category (depth : Nat) : Reader Diagnostic.Category :=
  name depth Diagnostic.Category.all

def diagnostic (depth : Nat) : Reader Diagnostic :=
  record "struct Diagnostic" ⟨.arrayOperand, {}, []⟩ depth [
    { name := "kind", read := (kind (depth - 1)).into fun d k ↦ { d with kind := k } },
    { name := "range", read := (range (depth - 1)).into fun d r ↦ { d with range := r } },
    { name := "arguments"
      read := (list (depth - 1) text).into fun d as ↦ { d with arguments := as } }]

end Reader

end StackScript.Json
