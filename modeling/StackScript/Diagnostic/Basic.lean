import StackScript.Diagnostic.Kind
import StackScript.Source.Range
import StackScript.Source.Token

/-!
# Diagnostics

A diagnostic is plain data: what went wrong, where in the source, and the arguments that fill the
slots of the kind's message.
-/

namespace StackScript

/-- A failure with its place in the source. -/
structure Diagnostic where
  /-- What went wrong. -/
  kind : Diagnostic.Kind
  /-- The source of the failing instruction. -/
  range : Range
  /-- What fills the slots of the message. -/
  arguments : List String
deriving DecidableEq, Repr

namespace Diagnostic

/-- The diagnostic of a kind about an operator. -/
def forOperator (kind : Kind) (range : Range) (operator : Token) : Diagnostic :=
  ⟨kind, range, [operator.text]⟩

/-- The message with its slots filled. -/
def message (d : Diagnostic) : String :=
  String.ofList (render d.arguments d.kind.template.toList)

/-- The message behind its position. -/
def text (d : Diagnostic) : String :=
  "[" ++ d.range.start.text ++ "] " ++ d.message

end Diagnostic

end StackScript
