import Persistence.Text.Lowercase
import Persistence.Value.Basic

/-!
# Schemas

The declarative description of entities: their fields, the tables and columns they map to,
and the associations between them. Nothing here is checked; a schema may contradict itself.
-/

set_option autoImplicit false

namespace Persistence

namespace Schema

/-- Where an association keeps its links. -/
inductive Link where
  /-- A column of the declaring table holds the key of the other row. -/
  | oneToOne (column : String)
  /-- A column of the target table holds the key of the declaring row. -/
  | oneToMany (column : String)
  | manyToMany (table keyField foreignField : String)
deriving DecidableEq, Repr

structure Association where
  name : String
  target : String
  link : Link
deriving DecidableEq, Repr

def Association.hasLocalColumn (association : Association) : Bool :=
  match association.link with
  | .oneToOne _ => true
  | _ => false

inductive FieldType where
  | scalar (type : ScalarType)
  | association (association : Association)
deriving DecidableEq, Repr

/-- The scalar type, if the field holds a value of its own. -/
def FieldType.scalar? : FieldType → Option ScalarType
  | .scalar declared => some declared
  | .association _ => none

def FieldType.association? : FieldType → Option Association
  | .scalar _ => none
  | .association declared => some declared

structure Field where
  name : String
  type : FieldType
  column : Option String := none
  isPrimaryKey : Bool := false
  isAutoIncrement : Bool := false
  isNullable : Bool := true
  isUnique : Bool := false
  isTransient : Bool := false
deriving DecidableEq, Repr

namespace Field

def withColumn (column : String) (field : Field) : Field := { field with column := some column }

def primaryKey (field : Field) : Field := { field with isPrimaryKey := true }

/-- Declares the field a primary key whose values storage generates. -/
def autoIncrement (field : Field) : Field :=
  { field with isPrimaryKey := true, isAutoIncrement := true }

def notNull (field : Field) : Field := { field with isNullable := false }

def unique (field : Field) : Field := { field with isUnique := true }

def transient (field : Field) : Field := { field with isTransient := true }

def isPersistent (field : Field) : Bool := !field.isTransient

/-- The column of the field: the one it is mapped to, else the one its one-to-one association
names, else its own name. -/
def columnName (field : Field) : String :=
  match field.column, field.type with
  | some column, _ => column
  | none, .association ⟨_, _, .oneToOne column⟩ => column
  | none, _ => field.name

/-- Whether the field occupies a column of its entity's table. Collections live elsewhere. -/
def hasColumn (field : Field) : Bool :=
  match field.type with
  | .scalar _ => true
  | .association association => association.hasLocalColumn

end Field

structure Entity where
  name : String
  table : Option String := none
  fields : List Field := []
  isLazy : Bool := false
  isCascading : Bool := false
  isTransient : Bool := false
deriving DecidableEq, Repr

namespace Entity

def withTable (table : String) (entity : Entity) : Entity := { entity with table := some table }

def lazy (entity : Entity) : Entity := { entity with isLazy := true }

def cascading (entity : Entity) : Entity := { entity with isCascading := true }

def transient (entity : Entity) : Entity := { entity with isTransient := true }

def isPersistent (entity : Entity) : Bool := !entity.isTransient

/-- The table of the entity: the one it is mapped to, else its name in lower case. -/
def tableName (entity : Entity) : String :=
  entity.table.getD (Text.lowercase entity.name)

def persistentFields (entity : Entity) : List Field := entity.fields.filter Field.isPersistent

/-- The first field of the given name, stored or not. -/
def field? (entity : Entity) (name : String) : Option Field :=
  entity.fields.find? fun field => field.name == name

end Entity

end Schema

/-- The descriptions of all entities, in the order of their declaration. Names may repeat;
the first entity of a name is the one that counts. -/
structure Schema where
  entities : List Schema.Entity := []
deriving DecidableEq, Repr

namespace Schema

/-- Puts the entity in place of the first one with its name, or at the end if there is none. -/
def insertInto (entity : Entity) : List Entity → List Entity
  | [] => [entity]
  | first :: rest =>
      if first.name == entity.name then entity :: rest else first :: insertInto entity rest

/-- Adds an entity, replacing one with the same name. -/
def insert (schema : Schema) (entity : Entity) : Schema :=
  ⟨insertInto entity schema.entities⟩

def entity? (schema : Schema) (name : String) : Option Entity :=
  schema.entities.find? fun entity => entity.name == name

/-- The names of all entities, repeated ones included. -/
def entityNames (schema : Schema) : List String := schema.entities.map Entity.name

end Schema

end Persistence
