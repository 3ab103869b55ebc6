import Persistence.Mapping

/-!
# Relationships

An association once both of its entities have mappings: two sides, each with the column by
which it is joined. The declaring entity is always the first side.
-/

set_option autoImplicit false

namespace Persistence

open Schema

structure Side where
  entity : String
  table : String
  field : String
  column : String
deriving DecidableEq, Repr

namespace Side

def ofMapping (mapping : Mapping) (field column : String) : Side :=
  ⟨mapping.entity, mapping.table, field, column⟩

def joinColumn (side : Side) : String := side.table ++ "_" ++ side.column

end Side

/-- Where a relationship keeps its links. -/
inductive RelationshipKind where
  | oneToOne (column : String)
  | oneToMany (column : String)
  | manyToMany (table : String)
deriving DecidableEq, Repr

/-- A relationship of two entities, or of an entity with itself. -/
structure Relationship where
  name : String
  kind : RelationshipKind
  first : Side
  second : Side
deriving DecidableEq, Repr

namespace Relationship

def sideColumn (mapping : Mapping) (relationship field : String) :
    Except MappingFault String :=
  match mapping.field? field with
  | some found =>
      if found.hasColumn then .ok found.columnName
      else .error (.noSideColumn relationship mapping.entity field)
  | none => .error (.noSideColumn relationship mapping.entity field)

/-- The relationship that an association on a field of `owner` declares with `target`. -/
def ofAssociation (owner : Mapping) (field : Field) (association : Association)
    (target : Mapping) : Except MappingFault Relationship :=
  match association.link with
  | .oneToOne column =>
      .ok {
        name := association.name
        kind := .oneToOne column
        first := .ofMapping owner field.name field.columnName
        second := .ofMapping target target.key.name target.keyColumn }
  | .oneToMany column =>
      match target.fieldForColumn? column with
      | none => .error (.noForeignKeyField association.name target.entity column)
      | some foreignKey =>
          .ok {
            name := association.name
            kind := .oneToMany column
            first := .ofMapping owner field.name owner.keyColumn
            second := .ofMapping target foreignKey.name column }
  | .manyToMany table keyField foreignField => do
      let keyColumn ← sideColumn owner association.name keyField
      let foreignColumn ← sideColumn target association.name foreignField
      let first := Side.ofMapping owner keyField keyColumn
      let second := Side.ofMapping target foreignField foreignColumn
      if first.joinColumn = second.joinColumn then
        .error (.sharedJoinColumn association.name first.joinColumn table)
      else
        .ok { name := association.name, kind := .manyToMany table, first, second }

def cardinality (relationship : Relationship) : Cardinality :=
  match relationship.kind with
  | .oneToOne _ => .oneToOne
  | .oneToMany _ => .oneToMany
  | .manyToMany _ => .manyToMany

/-- The join table, if links are kept in one. -/
def joinTable? (relationship : Relationship) : Option String :=
  match relationship.kind with
  | .manyToMany table => some table
  | _ => none

/-- The column of the foreign key, if links are kept in one. -/
def foreignKeyColumn? (relationship : Relationship) : Option String :=
  match relationship.kind with
  | .oneToOne column => some column
  | .oneToMany column => some column
  | .manyToMany _ => none

def includes (relationship : Relationship) (entity : String) : Bool :=
  relationship.first.entity == entity || relationship.second.entity == entity

/-- The entity's own side and the other one. An entity related to itself has the first side. -/
def sides (relationship : Relationship) (entity : String) : Except Error (Side × Side) :=
  if relationship.first.entity = entity then .ok (relationship.first, relationship.second)
  else if relationship.second.entity = entity then
    .ok (relationship.second, relationship.first)
  else .error (.relationshipMismatch relationship.name entity)

/-- The join table, required of a relationship that keeps its links in one. -/
def joinTable (relationship : Relationship) : Except Error String :=
  match relationship.kind with
  | .manyToMany table => .ok table
  | _ => .error (.wrongCardinality relationship.name relationship.cardinality .manyToMany)

/-- The column of the foreign key, required of a one-to-many relationship. -/
def collectionColumn (relationship : Relationship) : Except Error String :=
  match relationship.kind with
  | .oneToMany column => .ok column
  | _ => .error (.wrongCardinality relationship.name relationship.cardinality .oneToMany)

def requireCardinality (relationship : Relationship) (expected : Cardinality) :
    Except Error Unit :=
  if relationship.cardinality = expected then .ok ()
  else .error (.wrongCardinality relationship.name relationship.cardinality expected)

def requireFirst (relationship : Relationship) (entity : String) : Except Error Unit :=
  if relationship.first.entity = entity then .ok ()
  else .error (.relationshipMismatch relationship.name entity)

def requireSecond (relationship : Relationship) (entity : String) : Except Error Unit :=
  if relationship.second.entity = entity then .ok ()
  else .error (.relationshipMismatch relationship.name entity)

end Relationship

end Persistence
