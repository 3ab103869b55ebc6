import Persistence.Instance.Basic

/-!
# Memos

What a catalog has resolved is kept and not resolved again: the mappings by entity, the
relationships by entity and field. The calls of this module look there first, leave there what
they resolve on their way, and keep it if they fail later on.
-/

set_option autoImplicit false

namespace Persistence

open Schema

/-- What has been resolved so far. -/
structure Memo where
  mappings : List (String × Mapping) := []
  relationships : List ((String × String) × Relationship) := []

namespace Memo

/-- The entries with one more, unless there is one of the key already. -/
def insertNew {κ α : Type} [BEq κ] (key : κ) (value : α) (entries : List (κ × α)) :
    List (κ × α) :=
  if (entries.lookup key).isSome then entries else (key, value) :: entries

def mapping? (entity : String) (memo : Memo) : Option Mapping := memo.mappings.lookup entity

def addMapping (entity : String) (mapping : Mapping) (memo : Memo) : Memo :=
  { memo with mappings := insertNew entity mapping memo.mappings }

def relationship? (entity field : String) (memo : Memo) : Option Relationship :=
  memo.relationships.lookup (entity, field)

def addRelationship (entity field : String) (relationship : Relationship) (memo : Memo) : Memo :=
  { memo with relationships := insertNew (entity, field) relationship memo.relationships }

end Memo

/-- A step with a memo at hand: it may fail, and keeps what it has resolved either way. -/
abbrev MemoStep (ε α : Type) := ExceptT ε (StateM Memo) α

namespace MemoStep

variable {ε α : Type}

def settle (outcome : Except ε α) : MemoStep ε α := fun memo => (outcome, memo)

/-- What is held, or else what the step gives, held from then on. The step may come to hold
something itself, which then counts. -/
def remember (held? : Memo → Option α) (hold : α → Memo → Memo) (step : MemoStep ε α) :
    MemoStep ε α := fun memo =>
  match held? memo with
  | some found => (.ok found, memo)
  | none =>
      match step memo with
      | (.error fault, after) => (.error fault, after)
      | (.ok resolved, after) =>
          let holding := hold resolved after
          (.ok ((held? holding).getD resolved), holding)

end MemoStep

namespace Catalog

open MemoStep

/-! ## Mappings and relationships -/

def recallResolved (catalog : Catalog) (entity : String) : MemoStep MappingFault Mapping :=
  remember (Memo.mapping? entity) (Memo.addMapping entity) (settle (catalog.resolve entity))

def recallMapping (catalog : Catalog) (entity : String) : MemoStep Error Mapping :=
  (catalog.recallResolved entity).adapt .mapping

def recallRelationship (catalog : Catalog) (entity field : String) :
    MemoStep Error Relationship :=
  remember (Memo.relationship? entity field) (Memo.addRelationship entity field) do
    let owner ← catalog.recallMapping entity
    let found ← settle (owner.field field)
    match found.type.association? with
    | none => settle (.error (.mapping (.notAnAssociation entity field)))
    | some association => do
        let target ← (catalog.recallResolved association.target).adapt fun cause =>
          .mapping (.unresolvableTarget entity field cause)
        settle ((Relationship.ofAssociation owner found association target).mapError .mapping)

/-! ## What they are resolved for -/

/-- The storage type of a field. For a field that holds other entities, it is looked up once
more for the primary key of the target. -/
def recallStorageType (catalog : Catalog) (entity field : String) :
    MemoStep Error StorageType := do
  let mapping ← catalog.recallMapping entity
  let found ← settle (mapping.field field)
  match found.type with
  | .scalar scalar => settle (.ok (catalog.dialect.storageType scalar))
  | .association association => do
      let target ← catalog.recallMapping association.target
      let again ← catalog.recallMapping target.entity
      let key ← settle (again.field target.key.name)
      match key.type with
      | .scalar scalar => settle (.ok (catalog.dialect.storageType scalar))
      | .association _ =>
          settle (.error (.mapping (.associationAsPrimaryKey key.name again.entity)))

def recallKeyValue (catalog : Catalog) (item : Instance) : MemoStep Error Value := do
  let mapping ← catalog.recallMapping item.entity
  settle (.ok (item.value mapping.key.name))

def recallRelationshipField (catalog : Catalog) (entity : String) (relationship : Relationship) :
    MemoStep Error Field := do
  let (own, _) ← settle (relationship.sides entity)
  let mapping ← catalog.recallMapping entity
  settle (mapping.field own.field)

def recallDeclared (catalog : Catalog) (entity : String) :
    MemoStep Error (List Relationship) := do
  let mapping ← catalog.recallMapping entity
  let associations := mapping.fields.filter fun field => field.type.association?.isSome
  associations.mapM fun field => catalog.recallRelationship entity field.name

def recallManyToManyAmong (catalog : Catalog) (entities : List String) :
    MemoStep Error (List Relationship) := do
  let declared ← entities.mapM catalog.recallDeclared
  settle (.ok (distinctByJoinTable [] declared.flatten))

def recallAllManyToMany (catalog : Catalog) : MemoStep Error (List Relationship) :=
  catalog.recallManyToManyAmong
    ((catalog.schema.entities.filter Entity.isPersistent).map Entity.name)

def recallManyToMany (catalog : Catalog) (entity : String) :
    MemoStep Error (List Relationship) := do
  let relationships ← catalog.recallAllManyToMany
  settle (.ok (relationships.filter fun relationship => relationship.includes entity))

end Catalog

/-! ## Calls -/

/-- A call whose answer rests on what the catalog resolves. -/
inductive CatalogCall where
  | mapping (entity : String)
  | relationship (entity field : String)
  | storageType (entity field : String)
  | declaredRelationships (entity : String)
  | manyToManyRelationships (entity : String)
  | allManyToMany
  | relationshipField (entity : String) (relationship : Relationship)
  | keyValue (item : Instance)

inductive CatalogAnswer where
  | mapping (mapping : Mapping)
  | relationship (relationship : Relationship)
  | storageType (type : StorageType)
  | relationships (relationships : List Relationship)
  | field (field : Field)
  | value (value : Value)
deriving DecidableEq

namespace Catalog

/-- What the schema says to the call. -/
def answer (catalog : Catalog) : CatalogCall → Except Error CatalogAnswer
  | .mapping entity => .mapping <$> catalog.mapping entity
  | .relationship entity field => .relationship <$> catalog.relationship entity field
  | .storageType entity field => .storageType <$> catalog.storageType entity field
  | .declaredRelationships entity => .relationships <$> catalog.declaredRelationships entity
  | .manyToManyRelationships entity => .relationships <$> catalog.manyToManyRelationships entity
  | .allManyToMany => .relationships <$> catalog.allManyToMany
  | .relationshipField entity relationship =>
      .field <$> catalog.relationshipField entity relationship
  | .keyValue item => .value <$> catalog.keyValue item

/-- What the catalog answers to the call with what it has resolved so far. -/
def recallAnswer (catalog : Catalog) : CatalogCall → MemoStep Error CatalogAnswer
  | .mapping entity => .mapping <$> catalog.recallMapping entity
  | .relationship entity field => .relationship <$> catalog.recallRelationship entity field
  | .storageType entity field => .storageType <$> catalog.recallStorageType entity field
  | .declaredRelationships entity => .relationships <$> catalog.recallDeclared entity
  | .manyToManyRelationships entity => .relationships <$> catalog.recallManyToMany entity
  | .allManyToMany => .relationships <$> catalog.recallAllManyToMany
  | .relationshipField entity relationship =>
      .field <$> catalog.recallRelationshipField entity relationship
  | .keyValue item => .value <$> catalog.recallKeyValue item

/-- The answers to one call after the other, and what has been resolved then. -/
def recallAnswers (catalog : Catalog) :
    List CatalogCall → Memo → List (Except Error CatalogAnswer) × Memo
  | [], memo => ([], memo)
  | call :: rest, memo =>
      let (first, after) := catalog.recallAnswer call memo
      let (others, last) := catalog.recallAnswers rest after
      (first :: others, last)

end Catalog

end Persistence
