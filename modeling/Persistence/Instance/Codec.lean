import Persistence.Instance.Basic
import Persistence.Json.Decoding
import Persistence.Json.Scalar

/-!
# Values and records in JSON

The JSON form of values and records. A value is an alternative by its kind; a record keeps
its fields in order and repeated ones as they are.
-/

set_option autoImplicit false

namespace Persistence

open Json

-- Powers are those of the core library, whichever other instances are imported.
attribute [local instance (2000)] instPowNat

namespace Value

def toJson : Value → Json
  | .null => .text "Null"
  | .bool value => tagged "Bool" (.bool value)
  | .int32 value => tagged "Int32" (.integer value.toInt)
  | .int64 value => tagged "Int64" (.integer value.toInt)
  | .float32 value => tagged "Float32" value.toJson
  | .float64 value => tagged "Float64" value.toJson
  | .string value => tagged "String" (.text value)
  | .bytes value => tagged "Bytes" (.array (value.map fun byte => .integer byte.toNat))
  | .timestamp value => tagged "Timestamp" (.integer value.toInt)

def int32OfJson? (json : Json) : Option Int32 :=
  (json.integerWithin? (-2 ^ (31 : Nat)) (2 ^ (31 : Nat) - 1)).map Int32.ofInt

def int64OfJson? (json : Json) : Option Int64 :=
  (json.integerWithin? (-2 ^ (63 : Nat)) (2 ^ (63 : Nat) - 1)).map Int64.ofInt

def byteOfJson? (json : Json) : Option UInt8 :=
  (json.integerWithin? 0 255).map fun value => UInt8.ofNat value.toNat

def ofJson? (json : Json) : Option Value := do
  let (name, body) ← alternative? json
  match name, body with
  | "Null", body => if isBare body then some .null else none
  | "Bool", some body => (bool? body).map .bool
  | "Int32", some body => (int32OfJson? body).map .int32
  | "Int64", some body => (int64OfJson? body).map .int64
  | "Float32", some body => (binary? .single body).map .float32
  | "Float64", some body => (binary? .double body).map .float64
  | "String", some body => (Json.text? body).map .string
  | "Bytes", some body => (list? byteOfJson? body).map .bytes
  | "Timestamp", some body => (int64OfJson? body).map .timestamp
  | _, _ => none

end Value

namespace Record

/-- A field with its value, as a pair. -/
def pairOfJson? : Json → Option (String × Value)
  | .array [name, value] => do
      let name ← Json.text? name
      let value ← Value.ofJson? value
      some (name, value)
  | _ => none

def toJson (record : Record) : Json :=
  .record [
    ("entity", .text record.entity),
    ("values", .array (record.values.map fun (name, value) =>
      .array [.text name, value.toJson]))]

def ofJson? (json : Json) : Option Record := do
  match ← fields? ["entity", "values"] json with
  | [entity, values] => do
      let entity ← required Json.text? entity
      let values ← required (list? pairOfJson?) values
      some ⟨entity, values⟩
  | _ => none

end Record

end Persistence
