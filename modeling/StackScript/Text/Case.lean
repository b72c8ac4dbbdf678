import StackScript.Text.CaseTable
import StackScript.Text.Cased

/-!
# Upper and lower case

A character may become several (`ß` becomes `SS`), and the lower case of a capital sigma depends on
its place: at the end of a word it is `ς`, elsewhere `σ`. A word ends there when, with characters
that case ignores left out, a letter with case stands before and none follows.
-/

namespace StackScript.Text

def upperChar (c : Char) : List Char :=
  if c.toNat < 128 then [c.toUpper] else upperTable.map c

/-- The lower case of a character on its own. -/
def lowerChar (c : Char) : List Char :=
  if c.toNat < 128 then [c.toLower] else lowerTable.map c

/-- Whether the first character that case does not ignore has case. -/
def startsCased (cs : List Char) : Bool :=
  (cs.dropWhile caseIgnorable.contains).head?.any cased.contains

/-- The lower case of a character between the characters before it, nearest first, and those after
it. -/
def lowerAt (before : List Char) (c : Char) (after : List Char) : List Char :=
  if c = 'Σ' then
    if startsCased before && !startsCased after then ['ς'] else ['σ']
  else
    lowerChar c

/-- The lower case of a text that follows the characters `before`, nearest first. -/
def lowerAfter (before : List Char) : List Char → List Char
  | [] => []
  | c :: rest => lowerAt before c rest ++ lowerAfter (c :: before) rest

def upper (s : String) : String :=
  String.ofList (s.toList.flatMap upperChar)

def lower (s : String) : String :=
  String.ofList (lowerAfter [] s.toList)

end StackScript.Text
