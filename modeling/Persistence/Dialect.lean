import Persistence.Value.Basic

/-!
# Dialects

How a database stores declared types and spells what statements need.
-/

set_option autoImplicit false

namespace Persistence

/-- The storage class of a column or of a literal. -/
inductive StorageType where
  | integer
  | real
  | text
  | blob
  /-- The type of the null literal. -/
  | null
deriving DecidableEq, Repr

namespace StorageType

def all : List StorageType := [.integer, .real, .text, .blob, .null]

def name : StorageType → String
  | .integer => "Integer"
  | .real => "Real"
  | .text => "Text"
  | .blob => "Blob"
  | .null => "Null"

def ofName? (name : String) : Option StorageType :=
  all.find? fun type => type.name == name

def keyword : StorageType → String
  | .integer => "INTEGER"
  | .real => "REAL"
  | .text => "TEXT"
  | .blob => "BLOB"
  | .null => "NULL"

end StorageType

def Value.storageType : Value → StorageType
  | .null => .null
  | .bool _ | .int32 _ | .int64 _ | .timestamp _ => .integer
  | .float32 _ | .float64 _ => .real
  | .string _ => .text
  | .bytes _ => .blob

/-- The spelling of one database. -/
structure Dialect where
  name : String
  storageType : ScalarType → StorageType
  typeName : StorageType → String := StorageType.keyword
  autoIncrement : String := "AUTOINCREMENT"
  /-- Opening words of an insertion that leaves existing rows alone. -/
  insertOrIgnore : String := "INSERT OR IGNORE INTO"

/-- SQLite keeps truth values and timestamps as integers. -/
def Dialect.sqlite : Dialect where
  name := "sqlite"
  storageType
    | .bool | .int32 | .int64 | .timestamp => .integer
    | .float32 | .float64 => .real
    | .string => .text
    | .bytes => .blob

end Persistence
