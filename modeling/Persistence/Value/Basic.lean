import Persistence.Number.Binary

/-!
# Values

The values that fields hold, keys identify rows by and statements embed, and the types
that fields are declared with.
-/

set_option autoImplicit false

namespace Persistence

/-- The declared type of a field that holds a value of its own. -/
inductive ScalarType where
  | bool
  | int32
  | int64
  | float32
  | float64
  | string
  | bytes
  | timestamp
deriving DecidableEq, Repr

namespace ScalarType

/-- Every scalar type, in the order of their declaration. -/
def all : List ScalarType :=
  [.bool, .int32, .int64, .float32, .float64, .string, .bytes, .timestamp]

def name : ScalarType → String
  | .bool => "Bool"
  | .int32 => "Int32"
  | .int64 => "Int64"
  | .float32 => "Float32"
  | .float64 => "Float64"
  | .string => "String"
  | .bytes => "Bytes"
  | .timestamp => "Timestamp"

def ofName? (name : String) : Option ScalarType :=
  all.find? fun scalar => scalar.name == name

/-- Whether storage can number rows by values of the type. A timestamp is no number here. -/
def isInteger : ScalarType → Bool
  | .int32 | .int64 => true
  | _ => false

def isNumeric : ScalarType → Bool
  | .int32 | .int64 | .float32 | .float64 => true
  | _ => false

end ScalarType

/-- A value of a field. Text and bytes are unbounded; a timestamp counts microseconds. -/
inductive Value where
  | null
  | bool (value : Bool)
  | int32 (value : Int32)
  | int64 (value : Int64)
  | float32 (value : Binary32)
  | float64 (value : Binary64)
  | string (value : String)
  | bytes (value : List UInt8)
  | timestamp (value : Int64)
deriving DecidableEq

namespace Value

def isNull : Value → Bool
  | .null => true
  | _ => false

/-- Whether the value is the number zero, of either sign. False is not. -/
def isZero : Value → Bool
  | .int32 value => value == 0
  | .int64 value => value == 0
  | .timestamp value => value == 0
  | .float32 value => value.isZero
  | .float64 value => value.isZero
  | _ => false

/-- The integer that the value stands for: an integer, a timestamp, or a truth value as zero
or one. -/
def toInt64? : Value → Option Int64
  | .int64 value => some value
  | .timestamp value => some value
  | .int32 value => some value.toInt64
  | .bool value => some (if value then 1 else 0)
  | _ => none

/-- The number that the value stands for: a float, or the float nearest to its integer. -/
def toBinary64? : Value → Option Binary64
  | .float64 value => some value
  | .float32 value => some (value.convert .double)
  | value => value.toInt64?.map fun integer => Binary.ofInt .double integer.toInt

def text? : Value → Option String
  | .string value => some value
  | _ => none

/-- Equality of values of one kind. Floats are compared as numbers, so that what is not a
number equals nothing; values of different kinds are never equal. -/
def equals : Value → Value → Bool
  | .null, .null => true
  | .bool left, .bool right => left == right
  | .int32 left, .int32 right => left == right
  | .int64 left, .int64 right => left == right
  | .float32 left, .float32 right => left.equals right
  | .float64 left, .float64 right => left.equals right
  | .string left, .string right => left == right
  | .bytes left, .bytes right => left == right
  | .timestamp left, .timestamp right => left == right
  | _, _ => false

/-- Whether the two values identify the same row: integers are compared as numbers whatever
their width, everything else by equality. -/
def identifiesSame (left right : Value) : Bool :=
  match left.toInt64?, right.toInt64? with
  | some left, some right => left == right
  | _, _ => left.equals right

/-- Narrows a value read from storage to a declared type. Storage may know one integer type
and one float type only; a value that does not fit stays as it is. -/
def narrow (scalar : ScalarType) (value : Value) : Value :=
  match scalar, value with
  | .bool, .int64 integer => .bool (integer != 0)
  | .int32, .int64 integer =>
      if -2147483648 ≤ integer.toInt ∧ integer.toInt ≤ 2147483647 then .int32 integer.toInt32
      else value
  | .timestamp, .int64 integer => .timestamp integer
  | .float32, .float64 float => .float32 (float.convert .single)
  | .float64, .int64 integer => .float64 (Binary.ofInt .double integer.toInt)
  | _, _ => value

end Value

end Persistence
