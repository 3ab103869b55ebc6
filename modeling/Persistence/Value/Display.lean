import Persistence.Number.Shortest
import Persistence.Text.Display
import Persistence.Value.Basic

/-!
# Values for display

A value written with its kind, for messages.
-/

set_option autoImplicit false

namespace Persistence

/-- Floats are displayed without an exponent from a ten-thousandth up to below ten to the
sixteenth, and keep a decimal place; an exponent has no plus sign. -/
def displayLayout : Decimal.Layout where
  isPositional power := -4 ≤ power && power < 16
  keepsPoint := true
  signsExponent := false

def Binary.display {format : BinaryFormat} (number : Binary format) : String :=
  (number.shortest .away).write displayLayout

def Value.display : Value → String
  | .null => "Null"
  | .bool value => "Bool(" ++ (if value then "true" else "false") ++ ")"
  | .int32 value => "Int32(" ++ toString value.toInt ++ ")"
  | .int64 value => "Int64(" ++ toString value.toInt ++ ")"
  | .float32 value => "Float32(" ++ value.display ++ ")"
  | .float64 value => "Float64(" ++ value.display ++ ")"
  | .string value => "String(" ++ Text.display value ++ ")"
  | .bytes value =>
      "Bytes(" ++ Text.displayList (value.map fun byte => toString byte.toNat) ++ ")"
  | .timestamp value => "Timestamp(" ++ toString value.toInt ++ ")"

end Persistence
