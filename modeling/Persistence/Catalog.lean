import Persistence.Dialect
import Persistence.Relationship
import Persistence.Text.Display

/-!
# Catalogs

A schema with the rule for implicit primary keys and a dialect. Mappings, relationships and
storage types are functions of the three; what cannot be resolved is an error that names
the cause.
-/

set_option autoImplicit false

namespace Persistence

open Schema

/-- A schema and what is needed to interpret it. -/
structure Catalog where
  schema : Schema
  keyInference : KeyInference := {}
  dialect : Dialect := .sqlite

namespace Catalog

/-! ## Entities and fields -/

/-- Whether the entity is known and stored. -/
def isPersistent (catalog : Catalog) (entity : String) : Bool :=
  (catalog.schema.entity? entity).any Entity.isPersistent

/-- The mapping of an entity, or what keeps it from having one. -/
def resolve (catalog : Catalog) (entity : String) : Except MappingFault Mapping :=
  match catalog.schema.entity? entity with
  | none => .error (.unknownEntity entity)
  | some definition => Mapping.ofEntity catalog.keyInference definition

def mapping (catalog : Catalog) (entity : String) : Except Error Mapping :=
  (catalog.resolve entity).mapError .mapping

/-- The stored field of an entity, if there is one of that name. -/
def findField (catalog : Catalog) (entity field : String) : Except Error (Option Field) := do
  let mapping ← catalog.mapping entity
  .ok (mapping.field? field)

def columnName (catalog : Catalog) (entity field : String) : Except Error String := do
  let mapping ← catalog.mapping entity
  let found ← mapping.field field
  .ok found.columnName

def isNullable (catalog : Catalog) (entity field : String) : Except Error Bool := do
  let mapping ← catalog.mapping entity
  let _ ← mapping.field field
  .ok (mapping.isNullable field)

def isUnique (catalog : Catalog) (entity field : String) : Except Error Bool := do
  let mapping ← catalog.mapping entity
  let _ ← mapping.field field
  .ok (mapping.isUnique field)

def isPrimaryKey (catalog : Catalog) (entity field : String) : Except Error Bool := do
  let mapping ← catalog.mapping entity
  .ok (mapping.isKey field)

/-- Whether the field is a primary key whose values storage generates. Storage can number rows
by an integer key only. -/
def isAutoIncrement (catalog : Catalog) (entity field : String) : Except Error Bool := do
  let mapping ← catalog.mapping entity
  let found ← mapping.field field
  if !found.isAutoIncrement || !mapping.isKey field then .ok false
  else if found.type.scalar?.any ScalarType.isInteger then .ok true
  else .error (.mapping (.autoIncrementNotInteger entity field))

def isRelationship (catalog : Catalog) (entity field : String) : Except Error Bool := do
  let mapping ← catalog.mapping entity
  let found ← mapping.field field
  .ok found.type.association?.isSome

/-- The storage type of a field. A field that holds other entities has the type of their
primary key, which is a scalar. -/
def storageType (catalog : Catalog) (entity field : String) : Except Error StorageType := do
  let mapping ← catalog.mapping entity
  let found ← mapping.field field
  match found.type with
  | .scalar scalar => .ok (catalog.dialect.storageType scalar)
  | .association association => do
      let target ← catalog.mapping association.target
      match target.key.type with
      | .scalar scalar => .ok (catalog.dialect.storageType scalar)
      | .association _ =>
          .error (.mapping (.associationAsPrimaryKey target.key.name target.entity))

/-! ## Relationships -/

def relationship (catalog : Catalog) (entity field : String) : Except Error Relationship := do
  let owner ← catalog.mapping entity
  let found ← owner.field field
  match found.type.association? with
  | none => .error (.mapping (.notAnAssociation entity field))
  | some association =>
      match catalog.resolve association.target with
      | .error cause => .error (.mapping (.unresolvableTarget entity field cause))
      | .ok target =>
          (Relationship.ofAssociation owner found association target).mapError .mapping

/-- The field through which an entity takes part in a relationship. -/
def relationshipField (catalog : Catalog) (entity : String) (relationship : Relationship) :
    Except Error Field := do
  let (own, _) ← relationship.sides entity
  let mapping ← catalog.mapping entity
  mapping.field own.field

/-- The relationships that an entity declares, in the order of its fields. -/
def declaredRelationships (catalog : Catalog) (entity : String) :
    Except Error (List Relationship) := do
  let mapping ← catalog.mapping entity
  let associations := mapping.fields.filter fun field => field.type.association?.isSome
  associations.mapM fun field => catalog.relationship entity field.name

/-- The relationships that keep their links in a join table, the first of each join table. -/
def distinctByJoinTable : List String → List Relationship → List Relationship
  | _, [] => []
  | seen, relationship :: rest =>
      match relationship.joinTable? with
      | none => distinctByJoinTable seen rest
      | some table =>
          if seen.contains table then distinctByJoinTable seen rest
          else relationship :: distinctByJoinTable (table :: seen) rest

/-- The many-to-many relationships that the entities declare, one for each join table. -/
def manyToManyAmong (catalog : Catalog) (entities : List String) :
    Except Error (List Relationship) := do
  let declared ← entities.mapM catalog.declaredRelationships
  .ok (distinctByJoinTable [] declared.flatten)

/-- The many-to-many relationships of the schema, one for each join table. -/
def allManyToMany (catalog : Catalog) : Except Error (List Relationship) :=
  catalog.manyToManyAmong
    ((catalog.schema.entities.filter Entity.isPersistent).map Entity.name)

/-- The many-to-many relationships that include the entity on either side. -/
def manyToManyRelationships (catalog : Catalog) (entity : String) :
    Except Error (List Relationship) := do
  let relationships ← catalog.allManyToMany
  .ok (relationships.filter fun relationship => relationship.includes entity)

/-! ## Display -/

/-- The catalog for display: how keys are inferred, the entities, the dialect. -/
def display (catalog : Catalog) : String :=
  let inference := catalog.keyInference
  "Catalog \x7b config: CatalogConfig \x7b primary_key_name: " ++ Text.display inference.name ++
    ", primary_key_case_sensitive: " ++ (if inference.isCaseSensitive then "true" else "false") ++
    " \x7d, entities: " ++ Text.displayList (catalog.schema.entityNames.map Text.display) ++
    ", dialect: " ++ Text.display catalog.dialect.name ++ " \x7d"

end Catalog

end Persistence
