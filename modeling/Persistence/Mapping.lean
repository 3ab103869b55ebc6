import Persistence.Error
import Persistence.Schema.Basic

/-!
# Mappings

An entity as it is stored: its table, its stored fields, and the one field that is its
primary key. A mapping exists for a stored entity with distinct field names and one scalar
primary key, declared or implied by its name.
-/

set_option autoImplicit false

namespace Persistence

open Schema

/-- Which field is the primary key of an entity that declares none. -/
structure KeyInference where
  name : String := "id"
  isCaseSensitive : Bool := false
deriving DecidableEq, Repr

def KeyInference.accepts (inference : KeyInference) (fieldName : String) : Bool :=
  if inference.isCaseSensitive then fieldName == inference.name
  else Text.equalsIgnoringAsciiCase fieldName inference.name

/-- An entity as it is stored. -/
structure Mapping where
  entity : String
  table : String
  fields : List Field
  key : Field
  isLazy : Bool
  isCascading : Bool
deriving DecidableEq, Repr

namespace Mapping

/-- The field that is the primary key: the one declared so, or else the one whose name implies
it. The choice has to be unique and a field with a value of its own. -/
def keyOf (inference : KeyInference) (entity : String) (fields : List Field) :
    Except MappingFault Field := do
  let key ←
    match fields.filter Field.isPrimaryKey with
    | [key] => .ok key
    | [] =>
        match fields.filter fun field => inference.accepts field.name with
        | [key] => .ok key
        | [] => .error (.noPrimaryKey entity)
        | several => .error (.severalImplicitKeys entity several.length inference.name)
    | several => .error (.severalPrimaryKeys entity several.length)
  if key.type.scalar?.isSome then .ok key
  else .error (.associationAsPrimaryKey key.name entity)

/-- The first name that an earlier one repeats, given the names seen before. -/
def firstRepeated? : List String → List String → Option String
  | _, [] => none
  | seen, name :: rest =>
      if seen.contains name then some name else firstRepeated? (name :: seen) rest

/-- The mapping of an entity, or the first fault that keeps it from having one. -/
def ofEntity (inference : KeyInference) (entity : Entity) : Except MappingFault Mapping := do
  if entity.isTransient then .error (.transientEntity entity.name)
  let fields := entity.persistentFields
  if fields.isEmpty then .error (.noPersistentFields entity.name)
  let key ← keyOf inference entity.name fields
  match firstRepeated? [] (fields.map Field.name) with
  | some name => .error (.repeatedField entity.name name)
  | none =>
      .ok {
        entity := entity.name
        table := entity.tableName
        fields := fields
        key := key
        isLazy := entity.isLazy
        isCascading := entity.isCascading }

def columnFields (mapping : Mapping) : List Field := mapping.fields.filter Field.hasColumn

def field? (mapping : Mapping) (name : String) : Option Field :=
  mapping.fields.find? fun field => field.name == name

def field (mapping : Mapping) (name : String) : Except Error Field :=
  match mapping.field? name with
  | some field => .ok field
  | none => .error (.mapping (.unknownField mapping.entity name))

/-- The field that occupies the column, the last one if several do. -/
def fieldForColumn? (mapping : Mapping) (column : String) : Option Field :=
  (mapping.columnFields.filter fun field => field.columnName == column).getLast?

def keyColumn (mapping : Mapping) : String := mapping.key.columnName

def isKey (mapping : Mapping) (name : String) : Bool := name == mapping.key.name

/-- Whether the field accepts null. A primary key never does. -/
def isNullable (mapping : Mapping) (name : String) : Bool :=
  !mapping.isKey name && (mapping.field? name).any Field.isNullable

def isUnique (mapping : Mapping) (name : String) : Bool :=
  (mapping.field? name).any Field.isUnique

def uniqueFields (mapping : Mapping) : List Field := mapping.fields.filter Field.isUnique

end Mapping

end Persistence
