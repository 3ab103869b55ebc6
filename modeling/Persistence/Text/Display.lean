import Persistence.Text.DisplayTable
import Persistence.Text.Hexadecimal
import Persistence.Text.Join
import Persistence.Text.Ranges

/-!
# Text for display

A text in double quotes in which every character can be seen: control characters and
quotes are escaped, and so is each character without a visible form of its own.
-/

set_option autoImplicit false

namespace Persistence.Text

def isVisible (character : Char) : Bool :=
  !inRanges extendingRanges character.toNat && !inRanges invisibleRanges character.toNat

/-- One character of displayed text. A single quote needs no escape between double quotes. -/
def displayChar (character : Char) : String :=
  match character with
  | '\x00' => "\\0"
  | '\t' => "\\t"
  | '\r' => "\\r"
  | '\n' => "\\n"
  | '\\' => "\\\\"
  | '"' => "\\\""
  | _ =>
      if isVisible character then character.toString
      else "\\u\x7b" ++ Hexadecimal.plain character.toNat ++ "\x7d"

/-- The text in double quotes with every invisible character escaped. -/
def display (text : String) : String :=
  "\"" ++ String.join (text.toList.map displayChar) ++ "\""

/-- The items in square brackets, separated by a comma and a blank. -/
def displayList (items : List String) : String :=
  "[" ++ joinWith ", " items ++ "]"

end Persistence.Text
