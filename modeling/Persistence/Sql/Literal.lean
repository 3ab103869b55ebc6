import Persistence.Dialect
import Persistence.Number.Shortest
import Persistence.Text.Hexadecimal
import Persistence.Text.Join

/-!
# Literals

Values as they are embedded in statements. Text, and any value bound to a text column, is
written in single quotes; everything else is bare.
-/

set_option autoImplicit false

namespace Persistence

inductive Literal where
  | null
  | integer (value : Int)
  /-- A float by its shortest decimal. Infinities and what is not a number have bare names. -/
  | real (value : Numeral)
  | text (contents : String)
  | blob (contents : List UInt8)
deriving DecidableEq, Repr

/-- A float in a statement never has an exponent, and a whole one has no point. -/
def statementLayout : Decimal.Layout where
  isPositional _ := true
  keepsPoint := false
  signsExponent := false

/-- The characters of a quoted text: a quote is written twice, all else once. -/
def doubleQuotes : List Char → List Char
  | [] => []
  | '\'' :: rest => '\'' :: '\'' :: doubleQuotes rest
  | character :: rest => character :: doubleQuotes rest

/-- The text in single quotes, the quotes inside doubled. -/
def quoted (text : String) : String :=
  String.ofList ('\'' :: (doubleQuotes text.toList ++ ['\'']))

namespace Literal

def render : Literal → String
  | .null => "NULL"
  | .integer value => toString value
  | .real value => value.write statementLayout
  | .text contents => quoted contents
  | .blob contents => "X'" ++ Text.Hexadecimal.encode contents ++ "'"

def renderList (literals : List Literal) : String :=
  Text.parenthesized (literals.map render)

end Literal

namespace Value

def literal : Value → Literal
  | .null => .null
  | .bool value => .integer (if value then 1 else 0)
  | .int32 value => .integer value.toInt
  | .int64 value => .integer value.toInt
  | .timestamp value => .integer value.toInt
  | .float32 value => .real (value.shortest .away)
  | .float64 value => .real (value.shortest .away)
  | .string value => .text value
  | .bytes value => .blob value

/-- The value without quotes around it: a text as it is, anything else as its literal. -/
def bareText : Value → String
  | .string value => value
  | value => value.literal.render

/-- The literal of the value in a column of the given type. A column of text takes every value
but null as text. -/
def literalAs (type : StorageType) (value : Value) : Literal :=
  match type, value with
  | _, .null => .null
  | .text, value => .text value.bareText
  | _, value => value.literal

theorem literalAs_of_ne_text {type : StorageType} (bare : type ≠ .text) (value : Value) :
    value.literalAs type = value.literal := by
  unfold literalAs
  split
  · rfl
  · exact absurd rfl bare
  · rfl

end Value

end Persistence
