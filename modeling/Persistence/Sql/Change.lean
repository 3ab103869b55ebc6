import Persistence.Instance.Basic
import Persistence.Sql.Statement

/-!
# Changes of rows

The statements that add, change and remove the row of an instance, and those that set one
column of it. Values are written as literals of their columns' types.
-/

set_option autoImplicit false

namespace Persistence.Catalog

open Schema

def fieldLiteral (catalog : Catalog) (mapping : Mapping) (item : Instance) (field : Field) :
    Except Error Literal := do
  let type ← catalog.storageType mapping.entity field.name
  .ok ((item.value field.name).literalAs type)

def keyLiteral (catalog : Catalog) (item : Instance) : Except Error Literal := do
  let mapping ← catalog.mapping item.entity
  catalog.fieldLiteral mapping item mapping.key

/-- Whether the insertion of an instance leaves the key to storage: the instance lacks one and
storage generates it. -/
def leavesKeyToStorage (catalog : Catalog) (mapping : Mapping) (item : Instance) :
    Except Error Bool := do
  let lacksKey ← catalog.lacksKey item
  if lacksKey then catalog.isAutoIncrement mapping.entity mapping.key.name else .ok false

def insert (catalog : Catalog) (item : Instance) : Except Error Statement := do
  let mapping ← catalog.mapping item.entity
  let skipsKey ← catalog.leavesKeyToStorage mapping item
  let fields := mapping.columnFields.filter fun field =>
    !(skipsKey && mapping.isKey field.name)
  let values ← fields.mapM (catalog.fieldLiteral mapping item)
  .ok (.insert "INSERT INTO" mapping.table (fields.map Field.columnName) values)

/-- The statement that changes the row of an instance, or nothing if the key is its only
column. -/
def update (catalog : Catalog) (item : Instance) : Except Error (Option Statement) := do
  let mapping ← catalog.mapping item.entity
  let fields := mapping.columnFields.filter fun field => !mapping.isKey field.name
  let values ← fields.mapM (catalog.fieldLiteral mapping item)
  if fields.isEmpty then .ok none
  else do
    let key ← catalog.keyLiteral item
    .ok (some (.update mapping.table ((fields.map Field.columnName).zip values)
      (.compare mapping.keyColumn .equal key)))

def delete (catalog : Catalog) (item : Instance) : Except Error Statement := do
  let mapping ← catalog.mapping item.entity
  let key ← catalog.keyLiteral item
  .ok (.delete mapping.table [.compare mapping.keyColumn .equal key])

/-- The statement that stores the key of a related instance in a column of an instance. -/
def updateColumn (catalog : Catalog) (item related : Instance) (column : String) :
    Except Error Statement := do
  let mapping ← catalog.mapping item.entity
  let relatedKey ← catalog.keyLiteral related
  let key ← catalog.keyLiteral item
  .ok (.update mapping.table [(column, relatedKey)] (.compare mapping.keyColumn .equal key))

end Persistence.Catalog
