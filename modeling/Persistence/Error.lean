import Persistence.Text.Utf8
import Persistence.Value.Display

/-!
# Errors

Why an operation fails, by cause. Each error has one wording, given by `Error.message`.
-/

set_option autoImplicit false

namespace Persistence

/-- How many rows of each side a relationship links. -/
inductive Cardinality where
  | oneToOne
  | oneToMany
  | manyToMany
deriving DecidableEq, Repr

def Cardinality.name : Cardinality → String
  | .oneToOne => "one-to-one"
  | .oneToMany => "one-to-many"
  | .manyToMany => "many-to-many"

def Cardinality.ofName? (name : String) : Option Cardinality :=
  [oneToOne, oneToMany, manyToMany].find? fun cardinality => cardinality.name == name

/-- A defect of the schema, or a name that the schema does not know. -/
inductive MappingFault where
  | unknownEntity (entity : String)
  | transientEntity (entity : String)
  | noPersistentFields (entity : String)
  /-- No field is, or matches, the primary key. -/
  | noPrimaryKey (entity : String)
  | severalPrimaryKeys (entity : String) (count : Nat)
  /-- None is declared and several match the name of an implicit primary key. -/
  | severalImplicitKeys (entity : String) (count : Nat) (keyName : String)
  | associationAsPrimaryKey (field entity : String)
  /-- Two stored fields have the same name. -/
  | repeatedField (entity field : String)
  | unknownField (entity field : String)
  | notAnAssociation (entity field : String)
  | unresolvableTarget (entity field : String) (cause : MappingFault)
  /-- The target of a one-to-many association has no field for the foreign key. -/
  | noForeignKeyField (relationship entity column : String)
  | noSideColumn (relationship entity field : String)
  /-- The two sides of a many-to-many association would share a join column. -/
  | sharedJoinColumn (relationship column table : String)
  | autoIncrementNotInteger (entity field : String)
deriving DecidableEq, Repr

/-- The fault in words. The fault of a target is quoted as the error it would be. -/
def MappingFault.message : MappingFault → String
  | .unknownEntity entity => "unknown entity '" ++ entity ++ "'"
  | .transientEntity entity =>
      "entity '" ++ entity ++ "' is not persistent"
  | .noPersistentFields entity =>
      "entity '" ++ entity ++ "' has no persistent fields"
  | .noPrimaryKey entity =>
      "entity '" ++ entity ++ "' has no primary key field"
  | .severalPrimaryKeys entity count =>
      "entity '" ++ entity ++ "' declares " ++ toString count ++
        " primary key fields"
  | .severalImplicitKeys entity count keyName =>
      "entity '" ++ entity ++ "' has " ++ toString count ++
        " fields matching the implicit primary key '" ++ keyName ++ "'"
  | .associationAsPrimaryKey field entity =>
      "primary key '" ++ field ++ "' of entity '" ++ entity ++
        "' must be a scalar field"
  | .repeatedField entity field =>
      "entity '" ++ entity ++ "' declares field '" ++ field ++ "' twice"
  | .unknownField entity field =>
      "'" ++ field ++ "' is not a persistent field of '" ++ entity ++ "'"
  | .notAnAssociation entity field =>
      "field '" ++ entity ++ "." ++ field ++
        "' is not part of a relationship"
  | .unresolvableTarget entity field cause =>
      "relationship on '" ++ entity ++ "." ++ field ++
        "' targets an unresolvable entity: configuration error: " ++ cause.message
  | .noForeignKeyField relationship entity column =>
      "relationship '" ++ relationship ++ "': entity '" ++ entity ++
        "' has no field mapped to column '" ++ column ++ "'"
  | .noSideColumn relationship entity field =>
      "relationship '" ++ relationship ++ "': '" ++ entity ++ "." ++
        field ++ "' is not a persistent column"
  | .sharedJoinColumn relationship column table =>
      "relationship '" ++ relationship ++
        "': both sides map to join column '" ++ column ++ "' in '" ++ table ++ "'"
  | .autoIncrementNotInteger entity field =>
      "auto-increment primary key '" ++ entity ++ "." ++ field ++
        "' must be an integer"

inductive StorageFault where
  | reported (words : String)
  | cursorClosed
  | cursorNotOnRow
  | columnOutOfRange (index : Nat)
  | invalidText (column : Nat) (fault : Text.Utf8Fault)
deriving DecidableEq, Repr

def StorageFault.message : StorageFault → String
  | .reported words => words
  | .cursorClosed => "cursor is closed"
  | .cursorNotOnRow => "cursor is not positioned on a row"
  | .columnOutOfRange index => "column index " ++ toString index ++ " out of range"
  | .invalidText column fault =>
      "column " ++ toString column ++ " holds invalid UTF-8: " ++ fault.message

/-- Why a row gives no answer. -/
inductive RowFault where
  | missingCell (column : Nat)
  | notAnInteger (column : Nat) (value : Value)
  | negativeCount (count : Int)
  /-- The row was turned away, by its number from one. -/
  | rejected (ordinal : Nat)
deriving DecidableEq

def RowFault.message : RowFault → String
  | .missingCell column => "no value at column " ++ toString column
  | .notAnInteger column value =>
      "column " ++ toString column ++ " is not an integer: " ++ value.display
  | .negativeCount count => "negative row count " ++ toString count
  | .rejected ordinal => "row " ++ toString ordinal ++ " rejected"

inductive Error where
  /-- The schema is at fault, or does not know a name. -/
  | mapping (fault : MappingFault)
  | invalidCriteria (entity field : String)
  | relationshipMismatch (relationship entity : String)
  /-- The relationship has another cardinality than the operation needs. -/
  | wrongCardinality (relationship : String) (actual expected : Cardinality)
  | nonUniqueResult (entity : String) (count : Nat)
  | storage (fault : StorageFault)
  | row (fault : RowFault)
deriving DecidableEq

def Error.message : Error → String
  | .mapping fault => "configuration error: " ++ fault.message
  | .invalidCriteria entity field =>
      "invalid criteria: '" ++ field ++ "' is not a persistent field of '" ++ entity ++ "'"
  | .relationshipMismatch relationship entity =>
      "relationship '" ++ relationship ++ "' does not include '" ++ entity ++ "'"
  | .wrongCardinality relationship actual expected =>
      "relationship '" ++ relationship ++ "' is " ++ actual.name ++ ", expected " ++
        expected.name
  | .nonUniqueResult entity count =>
      "expected at most one result for '" ++ entity ++ "', found " ++ toString count
  | .storage fault => "storage error: " ++ fault.message
  | .row fault => "materialization error: " ++ fault.message

end Persistence
