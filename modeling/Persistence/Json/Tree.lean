import Persistence.Text.Hexadecimal
import Persistence.Text.Join

/-!
# JSON trees

JSON with everything a reader may care about: members in order, repeated ones included, and
numbers as they are written. The text of a tree has no blanks.
-/

set_option autoImplicit false

namespace Persistence

/-- A JSON value. -/
inductive Json where
  | null
  | bool (value : Bool)
  | number (lexeme : String)
  /-- A string; nothing if its escapes spell no text, as half of a surrogate pair does. -/
  | string (contents : Option String)
  | array (items : List Json)
  | object (members : List (Option String × Json))

namespace Json

def text (contents : String) : Json := .string (some contents)

def integer (value : Int) : Json := .number (toString value)

def record (members : List (String × Json)) : Json :=
  .object (members.map fun (name, value) => (some name, value))

def escapeChar (character : Char) : List Char :=
  match character with
  | '"' => ['\\', '"']
  | '\\' => ['\\', '\\']
  | '\x08' => ['\\', 'b']
  | '\x0c' => ['\\', 'f']
  | '\n' => ['\\', 'n']
  | '\r' => ['\\', 'r']
  | '\t' => ['\\', 't']
  | _ =>
      if character.toNat < 0x20 then
        '\\' :: 'u' :: Text.Hexadecimal.fixedDigits 4 character.toNat
      else [character]

/-- The text as a written string: quotes, backslashes and control characters are escaped, all
else is written as it is. -/
def quote (contents : String) : String :=
  String.ofList ('"' :: (contents.toList.flatMap escapeChar ++ ['"']))

mutual

def write : Json → String
  | .null => "null"
  | .bool value => if value then "true" else "false"
  | .number lexeme => lexeme
  | .string contents => quote (contents.getD "")
  | .array items => "[" ++ Text.joinWith "," (writeItems items) ++ "]"
  | .object members => "\x7b" ++ Text.joinWith "," (writeMembers members) ++ "\x7d"

def writeItems : List Json → List String
  | [] => []
  | item :: rest => write item :: writeItems rest

def writeMembers : List (Option String × Json) → List String
  | [] => []
  | (name, value) :: rest =>
      (quote (name.getD "") ++ ":" ++ write value) :: writeMembers rest

end

end Json

end Persistence
