import Persistence.Text.Units
import Persistence.Value.Basic

/-!
# Identity hashes

A 32-bit hash of values and texts. It depends on contents alone, so that it is the same in
every run. Integers of all widths hash by their number; arithmetic wraps.
-/

set_option autoImplicit false

namespace Persistence

/-- Polynomial hash of a text: each UTF-16 unit is added to 31 times the hash before it. -/
def textHash (text : String) : Int32 :=
  (Text.units16 text).foldl (fun hash unit => hash * 31 + Int32.ofNat unit) 0

/-- Folds a 64-bit word to 32 bits by combining its halves with exclusive or. -/
def foldWord (word : UInt64) : Int32 :=
  (word ^^^ (word >>> 32)).toUInt32.toInt32

/-- Polynomial hash of bytes, each of which counts as a signed number. -/
def bytesHash (bytes : List UInt8) : Int32 :=
  bytes.foldl (fun hash byte => hash * 31 + byte.toInt8.toInt32) 1

/-- The hash of a value. Floats hash by their bits as a 64-bit number. -/
def Value.identityHash : Value → Int32
  | .null => 0
  | .bool value => if value then 1231 else 1237
  | .int32 value => foldWord value.toInt64.toUInt64
  | .int64 value => foldWord value.toUInt64
  | .timestamp value => foldWord value.toUInt64
  | .float32 value => foldWord (UInt64.ofNat (value.convert .double).bits.toNat)
  | .float64 value => foldWord (UInt64.ofNat value.bits.toNat)
  | .string value => textHash value
  | .bytes value => bytesHash value

/-- The hash of the entity of the given name and of a key: the entity's hash alone if the key
is null. -/
def identityHash (entity : String) (key : Value) : Int32 :=
  let entityHash := 31 * 7 + textHash entity
  if key.isNull then entityHash else entityHash * 31 + key.identityHash

end Persistence
