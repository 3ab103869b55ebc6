import Persistence.Json.Decoding
import Persistence.Schema.Basic

/-!
# Schemas in JSON

The JSON form of schemas. Written, every field is present and in the order of its
declaration; read, fields with a usual value may be missing.
-/

set_option autoImplicit false

namespace Persistence

open Json

namespace ScalarType

def toJson (scalar : ScalarType) : Json := .text scalar.name

def ofJson? (json : Json) : Option ScalarType := do
  let (name, body) ← alternative? json
  if isBare body then ofName? name else none

end ScalarType

namespace Schema

/-- Whether something is kept out of storage, as JSON. -/
def modeToJson (isTransient : Bool) : Json :=
  .text (if isTransient then "Transient" else "Persistent")

def isTransientOfJson? (json : Json) : Option Bool := do
  let (name, body) ← alternative? json
  if !isBare body then none
  else if name == "Persistent" then some false
  else if name == "Transient" then some true
  else none

def Association.toJson (association : Association) : Json :=
  let ends := [("name", Json.text association.name), ("target", Json.text association.target)]
  match association.link with
  | .oneToOne column => tagged "OneToOne" (.record (ends ++ [("column", .text column)]))
  | .oneToMany column => tagged "OneToMany" (.record (ends ++ [("column", .text column)]))
  | .manyToMany table keyField foreignField =>
      tagged "ManyToMany" (.record (ends ++
        [("table", .text table), ("key_field", .text keyField),
          ("foreign_field", .text foreignField)]))

def columnAssociation? (link : String → Link) (body : Json) : Option Association := do
  match ← fields? ["name", "target", "column"] body with
  | [name, target, column] => do
      let name ← required text? name
      let target ← required text? target
      let column ← required text? column
      some ⟨name, target, link column⟩
  | _ => none

def joinTableAssociation? (body : Json) : Option Association := do
  match ← fields? ["name", "target", "table", "key_field", "foreign_field"] body with
  | [name, target, table, keyField, foreignField] => do
      let name ← required text? name
      let target ← required text? target
      let table ← required text? table
      let keyField ← required text? keyField
      let foreignField ← required text? foreignField
      some ⟨name, target, .manyToMany table keyField foreignField⟩
  | _ => none

def Association.ofJson? (json : Json) : Option Association :=
  match alternative? json with
  | some ("OneToOne", some body) => columnAssociation? .oneToOne body
  | some ("OneToMany", some body) => columnAssociation? .oneToMany body
  | some ("ManyToMany", some body) => joinTableAssociation? body
  | _ => none

def FieldType.toJson : FieldType → Json
  | .scalar type => tagged "Scalar" type.toJson
  | .association declared => tagged "Association" declared.toJson

def FieldType.ofJson? (json : Json) : Option FieldType :=
  match alternative? json with
  | some ("Scalar", some body) => (ScalarType.ofJson? body).map .scalar
  | some ("Association", some body) => (Association.ofJson? body).map .association
  | _ => none

def replacementToJson : Option String → Json
  | none => .null
  | some name => .text name

def Field.toJson (field : Field) : Json :=
  .record [
    ("name", .text field.name),
    ("field_type", field.type.toJson),
    ("column", replacementToJson field.column),
    ("primary_key", .bool field.isPrimaryKey),
    ("auto_increment", .bool field.isAutoIncrement),
    ("nullable", .bool field.isNullable),
    ("unique", .bool field.isUnique),
    ("persistence", modeToJson field.isTransient)]

def Field.ofJson? (json : Json) : Option Field := do
  let parts ← fields? ["name", "field_type", "column", "primary_key", "auto_increment",
    "nullable", "unique", "persistence"] json
  match parts with
  | [name, type, column, primaryKey, autoIncrement, isNullable, isUnique, mode] => do
      let name ← required text? name
      let type ← required FieldType.ofJson? type
      let column ← optional (nullable text?) none column
      let isPrimaryKey ← optional bool? false primaryKey
      let isAutoIncrement ← optional bool? false autoIncrement
      let isNullable ← optional bool? true isNullable
      let isUnique ← optional bool? false isUnique
      let isTransient ← optional isTransientOfJson? false mode
      some { name, type, column, isPrimaryKey, isAutoIncrement, isNullable, isUnique,
             isTransient }
  | _ => none

def Entity.toJson (entity : Entity) : Json :=
  .record [
    ("name", .text entity.name),
    ("table", replacementToJson entity.table),
    ("fields", .array (entity.fields.map Field.toJson)),
    ("lazy", .bool entity.isLazy),
    ("cascading", .bool entity.isCascading),
    ("persistence", modeToJson entity.isTransient)]

def Entity.ofJson? (json : Json) : Option Entity := do
  match ← fields? ["name", "table", "fields", "lazy", "cascading", "persistence"] json with
  | [name, table, fields, isLazy, isCascading, mode] => do
      let name ← required text? name
      let table ← optional (nullable text?) none table
      let fields ← optional (list? Field.ofJson?) [] fields
      let isLazy ← optional bool? false isLazy
      let isCascading ← optional bool? false isCascading
      let isTransient ← optional isTransientOfJson? false mode
      some { name, table, fields, isLazy, isCascading, isTransient }
  | _ => none

end Schema

def Schema.toJson (schema : Schema) : Json :=
  .record [("entities", .array (schema.entities.map Schema.Entity.toJson))]

def Schema.ofJson? (json : Json) : Option Schema := do
  match ← fields? ["entities"] json with
  | [entities] => do
      let entities ← optional (list? Schema.Entity.ofJson?) [] entities
      some ⟨entities⟩
  | _ => none

end Persistence
