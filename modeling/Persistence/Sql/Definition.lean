import Persistence.Catalog
import Persistence.Sql.Statement

/-!
# Table definitions

The statements that define and remove the tables of a schema: one table for each stored
entity, then one for each join table. Entities kept out of storage are passed over, names
that the schema does not know are refused, and the relationships of every stored entity
have to resolve before anything is written.
-/

set_option autoImplicit false

namespace Persistence.Catalog

open Schema

/-- The name alone if the entity is stored and its relationships resolve, nothing if it is
kept out of storage. -/
def storedName (catalog : Catalog) (entity : String) : Except Error (List String) :=
  if (catalog.schema.entity? entity).isNone then .error (.mapping (.unknownEntity entity))
  else if catalog.isPersistent entity then do
    let _ ← catalog.declaredRelationships entity
    .ok [entity]
  else .ok []

def storedNames (catalog : Catalog) (entities : List String) : Except Error (List String) := do
  let names ← entities.mapM catalog.storedName
  .ok names.flatten

/-- The constraints on the column of a field. The primary key needs no word against null. -/
def columnConstraints (catalog : Catalog) (mapping : Mapping) (field : Field) :
    Except Error (List ColumnConstraint) := do
  let own ←
    if mapping.isKey field.name then do
      let isGenerated ← catalog.isAutoIncrement mapping.entity field.name
      .ok (if isGenerated then [.primaryKey, .generated catalog.dialect.autoIncrement]
        else [.primaryKey])
    else if mapping.isNullable field.name then .ok []
    else .ok [.notNull]
  .ok (own ++ if mapping.isUnique field.name then [.unique] else [])

def columnDefinition (catalog : Catalog) (mapping : Mapping) (field : Field) :
    Except Error ColumnDefinition := do
  let type ← catalog.storageType mapping.entity field.name
  let constraints ← catalog.columnConstraints mapping field
  .ok ⟨field.columnName, catalog.dialect.typeName type, constraints⟩

def entityTable (catalog : Catalog) (entity : String) : Except Error Statement := do
  let mapping ← catalog.mapping entity
  let columns ← mapping.columnFields.mapM (catalog.columnDefinition mapping)
  .ok (.createTable mapping.table columns none)

def joinColumnDefinition (catalog : Catalog) (side : Side) : Except Error ColumnDefinition := do
  let type ← catalog.storageType side.entity side.field
  .ok ⟨side.joinColumn, catalog.dialect.typeName type, []⟩

def joinTableDefinition (catalog : Catalog) (relationship : Relationship) :
    Except Error Statement := do
  let table ← relationship.joinTable
  let first ← catalog.joinColumnDefinition relationship.first
  let second ← catalog.joinColumnDefinition relationship.second
  .ok (.createTable table [first, second] (some (first.name, second.name)))

def createTables (catalog : Catalog) (entities : List String) :
    Except Error (List Statement) := do
  let stored ← catalog.storedNames entities
  let entityTables ← stored.mapM catalog.entityTable
  let relationships ← catalog.manyToManyAmong stored
  let joinTables ← relationships.mapM catalog.joinTableDefinition
  .ok (entityTables ++ joinTables)

def dropEntityTable (catalog : Catalog) (entity : String) : Except Error Statement := do
  let mapping ← catalog.mapping entity
  .ok (.dropTable mapping.table)

/-- The statements that remove the tables of the entities, in the order in which they are
defined. -/
def dropTables (catalog : Catalog) (entities : List String) :
    Except Error (List Statement) := do
  let stored ← catalog.storedNames entities
  let entityTables ← stored.mapM catalog.dropEntityTable
  let relationships ← catalog.manyToManyAmong stored
  .ok (entityTables ++ (relationships.filterMap Relationship.joinTable?).map .dropTable)

end Persistence.Catalog
