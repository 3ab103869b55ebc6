import Persistence.Json.Tree
import Persistence.Number.Reading

/-!
# Reading JSON

Text read as one JSON value with nothing but blanks around it. Nothing is repaired: leading
zeros, trailing commas, bare control characters and other escapes are refused.
-/

set_option autoImplicit false

namespace Persistence.Json

def skipBlanks (characters : List Char) : List Char :=
  characters.dropWhile fun character =>
    character == ' ' || character == '\t' || character == '\n' || character == '\r'

/-! ## Strings -/

/-- A piece of a string: a character, or a UTF-16 unit given by an escape. -/
inductive Piece where
  | character (value : Char)
  | unit (value : Nat)

/-- The characters that the pieces spell. Units above the first plane come in pairs. -/
def assemble? : List Piece → Option (List Char)
  | [] => some []
  | .character value :: rest => (assemble? rest).map (value :: ·)
  | .unit high :: .unit low :: rest =>
      if 0xD800 ≤ high && high ≤ 0xDBFF then
        if 0xDC00 ≤ low && low ≤ 0xDFFF then
          (assemble? rest).map
            (Char.ofNat (0x10000 + (high - 0xD800) * 0x400 + (low - 0xDC00)) :: ·)
        else none
      else if 0xDC00 ≤ high && high ≤ 0xDFFF then none
      else (assemble? (.unit low :: rest)).map (Char.ofNat high :: ·)
  | .unit value :: rest =>
      if 0xD800 ≤ value && value ≤ 0xDFFF then none
      else (assemble? rest).map (Char.ofNat value :: ·)

def simpleEscape? : Char → Option Char
  | '"' => some '"'
  | '\\' => some '\\'
  | '/' => some '/'
  | 'b' => some '\x08'
  | 'f' => some '\x0c'
  | 'n' => some '\n'
  | 'r' => some '\r'
  | 't' => some '\t'
  | _ => none

def readPieces? : List Char → Option (List Piece × List Char)
  | [] => none
  | '"' :: rest => some ([], rest)
  | '\\' :: 'u' :: a :: b :: c :: d :: rest => do
      let value ← Text.Hexadecimal.value? [a, b, c, d]
      let (pieces, rest) ← readPieces? rest
      some (.unit value :: pieces, rest)
  | '\\' :: escaped :: rest => do
      let value ← simpleEscape? escaped
      let (pieces, rest) ← readPieces? rest
      some (.character value :: pieces, rest)
  | character :: rest =>
      if character == '\\' || character.toNat < 0x20 then none
      else do
        let (pieces, rest) ← readPieces? rest
        some (.character character :: pieces, rest)

def readString? (characters : List Char) : Option (Option String × List Char) := do
  let (pieces, rest) ← readPieces? characters
  some ((assemble? pieces).map String.ofList, rest)

/-! ## Numbers -/

def readDigits? (characters : List Char) : Option (List Char × List Char) :=
  match characters.span Number.isDigit with
  | ([], _) => none
  | (digits, rest) => some (digits, rest)

/-- Reads the whole part of a number: a zero alone, or digits that begin with another. -/
def readWhole? : List Char → Option (List Char × List Char)
  | '0' :: next :: rest =>
      if Number.isDigit next then none else some (['0'], next :: rest)
  | ['0'] => some (['0'], [])
  | characters => readDigits? characters

/-- Reads a fraction, if one follows. -/
def readFraction? : List Char → Option (List Char × List Char)
  | '.' :: rest => do
      let (digits, rest) ← readDigits? rest
      some ('.' :: digits, rest)
  | characters => some ([], characters)

/-- Reads an exponent, if one follows. -/
def readExponent? : List Char → Option (List Char × List Char)
  | [] => some ([], [])
  | mark :: rest =>
      if mark == 'e' || mark == 'E' then
        match rest with
        | [] => none
        | sign :: more =>
            if sign == '+' || sign == '-' then do
              let (digits, rest) ← readDigits? more
              some (mark :: sign :: digits, rest)
            else do
              let (digits, rest) ← readDigits? rest
              some (mark :: digits, rest)
      else some ([], mark :: rest)

def readNumber? (characters : List Char) : Option (String × List Char) := do
  let (sign, rest) := match characters with
    | '-' :: rest => (['-'], rest)
    | characters => ([], characters)
  let (whole, rest) ← readWhole? rest
  let (fraction, rest) ← readFraction? rest
  let (exponent, rest) ← readExponent? rest
  some (String.ofList (sign ++ whole ++ fraction ++ exponent), rest)

/-! ## Values -/

mutual

/-- Reads a value. Going one level down takes two steps and reads a character at least. -/
def readValue? : Nat → List Char → Option (Json × List Char)
  | 0, _ => none
  | fuel + 1, characters =>
      match skipBlanks characters with
      | 'n' :: 'u' :: 'l' :: 'l' :: rest => some (.null, rest)
      | 't' :: 'r' :: 'u' :: 'e' :: rest => some (.bool true, rest)
      | 'f' :: 'a' :: 'l' :: 's' :: 'e' :: rest => some (.bool false, rest)
      | '"' :: rest => do
          let (contents, rest) ← readString? rest
          some (.string contents, rest)
      | '[' :: rest =>
          match skipBlanks rest with
          | ']' :: rest => some (.array [], rest)
          | rest => do
              let (items, rest) ← readItems? fuel rest
              some (.array items, rest)
      | '\x7b' :: rest =>
          match skipBlanks rest with
          | '\x7d' :: rest => some (.object [], rest)
          | rest => do
              let (members, rest) ← readMembers? fuel rest
              some (.object members, rest)
      | rest => do
          let (lexeme, rest) ← readNumber? rest
          some (.number lexeme, rest)

/-- Reads the items of an array, one at least, and its closing bracket. -/
def readItems? : Nat → List Char → Option (List Json × List Char)
  | 0, _ => none
  | fuel + 1, characters => do
      let (item, rest) ← readValue? fuel characters
      match skipBlanks rest with
      | ',' :: rest => do
          let (items, rest) ← readItems? fuel rest
          some (item :: items, rest)
      | ']' :: rest => some ([item], rest)
      | _ => none

/-- Reads the members of an object, one at least, and its closing brace. -/
def readMembers? : Nat → List Char → Option (List (Option String × Json) × List Char)
  | 0, _ => none
  | fuel + 1, characters =>
      match skipBlanks characters with
      | '"' :: rest => do
          let (name, rest) ← readString? rest
          match skipBlanks rest with
          | ':' :: rest => do
              let (value, rest) ← readValue? fuel rest
              match skipBlanks rest with
              | ',' :: rest => do
                  let (members, rest) ← readMembers? fuel rest
                  some ((name, value) :: members, rest)
              | '\x7d' :: rest => some ([(name, value)], rest)
              | _ => none
          | _ => none
      | _ => none

end

def read? (text : String) : Option Json := do
  let characters := text.toList
  let (value, rest) ← readValue? (2 * characters.length + 2) characters
  if (skipBlanks rest).isEmpty then some value else none

end Persistence.Json
