import Persistence.Sql.Change

/-!
# Changes of links

The statements that read, set and remove the links of a relationship. Each needs a certain
cardinality and instances of the relationship's sides.
-/

set_option autoImplicit false

namespace Persistence.Catalog

def sideLiteral (catalog : Catalog) (side : Side) (value : Value) : Except Error Literal := do
  let type ← catalog.storageType side.entity side.field
  .ok (value.literalAs type)

def linkedTable (side : Side) : LinkedTable := ⟨side.table, side.column, side.joinColumn⟩

/-- The statement that reads the rows of `queried` linked with the other side's row of the
given key. The key is written by its own kind. An entity related to itself is read on its
first side. -/
def selectLinked (relationship : Relationship) (key : Value) (queried : String) :
    Except Error Statement := do
  let joinTable ← relationship.joinTable
  let first := linkedTable relationship.first
  let second := linkedTable relationship.second
  if relationship.first.entity = queried then
    .ok (.selectLinked true first second joinTable key.literal)
  else if relationship.second.entity = queried then
    .ok (.selectLinked false second first joinTable key.literal)
  else .error (.relationshipMismatch relationship.name queried)

/-- The statement that removes the links of an instance except those to the given keys, and
all of its links if none are given. The kept keys are written by their own kinds. -/
def deleteStaleLinks (catalog : Catalog) (relationship : Relationship) (item : Instance)
    (kept : List Value) : Except Error Statement := do
  let joinTable ← relationship.joinTable
  let (own, other) ← relationship.sides item.entity
  let owner ← catalog.sideLiteral own (item.value own.field)
  let ownerCondition := Condition.compare own.joinColumn .equal owner
  let keptCondition := match kept with
    | [] => []
    | _ => [Condition.isNotIn other.joinColumn (kept.map Value.literal)]
  .ok (.delete joinTable (ownerCondition :: keptCondition))

/-- The statement that removes the links of an instance on its own side. -/
def deleteLinks (catalog : Catalog) (relationship : Relationship) (item : Instance) :
    Except Error Statement := do
  let joinTable ← relationship.joinTable
  let (own, _) ← relationship.sides item.entity
  let owner ← catalog.sideLiteral own (item.value own.field)
  .ok (.delete joinTable [.compare own.joinColumn .equal owner])

/-- The statement that links an instance with the other side's row of the given key, unless the
link exists. -/
def insertLink (catalog : Catalog) (relationship : Relationship) (item : Instance)
    (relatedKey : Value) : Except Error Statement := do
  let joinTable ← relationship.joinTable
  let (own, other) ← relationship.sides item.entity
  let owner ← catalog.sideLiteral own (item.value own.field)
  let related ← catalog.sideLiteral other relatedKey
  .ok (.insert catalog.dialect.insertOrIgnore joinTable [own.joinColumn, other.joinColumn]
    [owner, related])

/-- The statement that points the foreign keys of the rows of the given keys at an owner, or
nothing if there are no keys. -/
def updateForeignKeys (catalog : Catalog) (relationship : Relationship) (owner : Instance)
    (relatedKeys : List Value) : Except Error (Option Statement) := do
  let column ← relationship.collectionColumn
  relationship.requireFirst owner.entity
  if relatedKeys.isEmpty then .ok none
  else do
    let many ← catalog.mapping relationship.second.entity
    let manyKeyType ← catalog.storageType many.entity many.key.name
    let ownerKey ← catalog.keyLiteral owner
    .ok (some (.update many.table [(column, ownerKey)]
      (.isIn many.keyColumn (relatedKeys.map (Value.literalAs manyKeyType)))))

/-- The statement that points the foreign key of an owner at a related instance. -/
def updateOneToOne (catalog : Catalog) (relationship : Relationship)
    (owner related : Instance) : Except Error Statement := do
  relationship.requireCardinality .oneToOne
  relationship.requireFirst owner.entity
  relationship.requireSecond related.entity
  let mapping ← catalog.mapping owner.entity
  let relatedKey ← catalog.keyLiteral related
  let ownerKey ← catalog.keyLiteral owner
  .ok (.update mapping.table [(relationship.first.column, relatedKey)]
    (.compare mapping.keyColumn .equal ownerKey))

end Persistence.Catalog
