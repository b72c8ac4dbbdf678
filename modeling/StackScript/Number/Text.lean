import StackScript.Number.Numeral
import StackScript.Number.Style
import StackScript.Text.Blank

/-!
# Numbers as programs see them

How a number becomes a text, when a text is a number, and which numbers count as true. Writing a
finite number and reading it gives the number back.

The general reader `Number.ofChars?` takes a sign and then a numeral or one of a few words, such as
`inf`. Programs do not see these words as numbers: before `Number.read?` asks the general reader, it
looks at the characters of the text, and afterwards it refuses what is not finite.
-/

namespace StackScript.Number

/-- The text of numbers as programs see them: in full from `1e-6` on and below `1e21`, otherwise with
an exponent. The leading digit tells the two forms apart, as the shortest digits of a number do not
pass these bounds where the number does not. -/
def style : Style where
  plain e := -6 ≤ e ∧ e ≤ 20
  keepsPoint := false
  signsZero := false
  tie := .up
  notANumber := "NaN"
  infinity := "Infinity"
  negativeInfinity := "-Infinity"

def text (n : Float) : String :=
  style.text n

/-- The numbers that have a name, which may be written in any case. -/
def words : List (String × Float) :=
  [("inf", 1 / 0), ("infinity", 1 / 0), ("nan", 0 / 0)]

def word? (cs : List Char) : Option Float :=
  words.lookup (String.ofList (cs.map Char.toLower))

/-- Reads a number that takes up the whole text: an optional sign, then a word or a numeral. -/
def ofChars? (cs : List Char) : Option Float :=
  let (negative, body) := Numeral.splitSign cs
  match word? body with
  | some x => some (if negative then -x else x)
  | none => (Numeral.ofChars? cs).map Numeral.toFloat

/-- The characters that a number may be written with. -/
def allowed (c : Char) : Bool :=
  c.isDigit || c == '.' || c == '+' || c == '-' || c == 'e' || c == 'E'

/-- Reads a number from a text, which may have blanks around it. The number has to be finite. -/
def read? (s : String) : Option Float :=
  let cs := Text.trim s.toList
  if cs.isEmpty then
    none
  else if !cs.all allowed then
    none
  else if !cs.any Char.isDigit then
    none
  else
    (ofChars? cs).filter Float.isFinite

/-- Whether a number counts as true: all but zero and the value that is not a number. -/
def truth (n : Float) : Bool :=
  n != 0 && !n.isNaN

end StackScript.Number
