/-!
# Message templates

A slot is a number in braces. Rendering goes over the template once, from left to right, and puts
the argument with that number in the place of each slot; what an argument contains is never looked
at again. A brace that opens no slot stands for itself.
-/

namespace StackScript.Diagnostic

def slot (n : Nat) : String :=
  "\x7b" ++ toString n ++ "\x7d"

/-- The text for slot `n`: the argument, or a question mark if there is none. Slot numbers are 64-bit
words. -/
def slotText (arguments : List String) (n : Nat) : List Char :=
  if n < UInt64.size then
    match arguments[n]? with
    | some a => a.toList
    | none => ['?']
  else
    ['?']

/-- Puts the arguments into the slots of the template. The digits behind a brace are taken together,
and written out again where no slot closes. -/
def render (arguments : List String) (template : List Char) : List Char :=
  match template with
  | [] => []
  | c :: cs =>
    if c ≠ '\x7b' then
      c :: render arguments cs
    else
      let digits := cs.takeWhile Char.isDigit
      let rest := cs.dropWhile Char.isDigit
      if rest.head? = some '\x7d' ∧ digits ≠ [] then
        slotText arguments (Nat.ofDigitChars 10 digits 0) ++ render arguments rest.tail
      else
        c :: (digits ++ render arguments rest)
termination_by template.length
decreasing_by
  · simp
  all_goals
    have hle := (cs.dropWhile_suffix Char.isDigit).length_le
    simp
    omega

end StackScript.Diagnostic
