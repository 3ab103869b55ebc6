import Persistence.Query
import Persistence.Number.Reading
import Persistence.Text.Blank
import Persistence.Text.Units

/-!
# Filters

A field name and a value in one word, with an equals sign between them. The value is read
as the type of the field says; blanks around both parts do not count.
-/

set_option autoImplicit false

namespace Persistence.CommandLine

open Schema

-- Powers are those of the core library, whichever other instances are imported.
attribute [local instance (2000)] instPowNat

/-- Why a filter cannot be read. -/
inductive FilterFault where
  | notAnEquation
  | notABoolean (text : String)
  | notAnInteger (text : String)
  | notANumber (text : String)
deriving DecidableEq, Repr

def FilterFault.message : FilterFault → String
  | .notAnEquation => "expected field=value"
  | .notABoolean text => "'" ++ text ++ "' is not a boolean"
  | .notAnInteger text => "'" ++ text ++ "' is not an integer"
  | .notANumber text => "'" ++ text ++ "' is not a number"

/-- The two parts of a filter around its first equals sign, without blanks around them. -/
def splitFilter (filter : String) : Except FilterFault (String × String) :=
  match filter.toList.span fun character => character != '=' with
  | (_, []) => .error .notAnEquation
  | (name, _ :: value) =>
      .ok (Text.trim (String.ofList name), Text.trim (String.ofList value))

/-- The value of a scalar type that the text spells. Floats of both widths are read as doubles,
timestamps as integers. -/
def scalarValue (scalar : ScalarType) (text : String) : Except FilterFault Value :=
  match scalar with
  | .bool =>
      if text == "true" then .ok (.bool true)
      else if text == "false" then .ok (.bool false)
      else .error (.notABoolean text)
  | .int32 =>
      match Number.integerWithin? (-2 ^ (31 : Nat)) (2 ^ (31 : Nat) - 1) text with
      | some value => .ok (.int32 (Int32.ofInt value))
      | none => .error (.notAnInteger text)
  | .int64 | .timestamp =>
      match Number.integerWithin? (-2 ^ (63 : Nat)) (2 ^ (63 : Nat) - 1) text with
      | some value => .ok (.int64 (Int64.ofInt value))
      | none => .error (.notAnInteger text)
  | .float32 | .float64 =>
      match Number.numeral? text with
      | some numeral => .ok (.float64 (.ofNumeral .double numeral))
      | none => .error (.notANumber text)
  | .string => .ok (.string text)
  | .bytes => .ok (.bytes (Text.utf8Bytes text))

/-- The value that the text spells for a field. A field that holds other entities, and a field
that is not there, take it as text. -/
def fieldValue (field : Option Field) (text : String) : Except FilterFault Value :=
  match field.bind fun found => found.type.scalar? with
  | some scalar => scalarValue scalar text
  | none => .ok (.string text)

end Persistence.CommandLine
