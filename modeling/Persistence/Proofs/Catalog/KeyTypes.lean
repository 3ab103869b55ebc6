import Persistence.Proofs.Catalog.TableNames

/-!
# Types of references

A column that refers to a field of another table is defined with the type that the field has
there. This holds of both columns of a join table, also where the field that they are named for
refers to a third table, and of the column of a one-to-one association, whose links are written
as values of that type.
-/

set_option autoImplicit false

namespace Persistence.Catalog

open Schema

variable {catalog : Catalog} {entity : String} {mapping : Mapping} {field : Field}
  {type : StorageType}

/-! ## Types of columns -/

/-- The statement defines the table of the mapping, and in it the column of the field with the
word for the type. -/
def DefinesColumn (catalog : Catalog) (mapping : Mapping) (statement : Statement) (field : Field)
    (type : StorageType) : Prop :=
  ∃ columns definition, statement = .createTable mapping.table columns none ∧
    (field, definition) ∈ mapping.columnFields.zip columns ∧
    definition.name = field.columnName ∧ definition.type = catalog.dialect.typeName type

/-- The field of the entity has a column, which has the type wherever it is defined, by itself
and in the entity's table. -/
inductive HasColumnType (catalog : Catalog) (entity name : String) (type : StorageType) : Prop
  | intro {mapping : Mapping} {field : Field} (mapped : catalog.mapping entity = .ok mapping)
      (member : field ∈ mapping.columnFields) (named : field.name = name)
      (typed : catalog.storageType entity name = .ok type)
      (alone : ∀ column, catalog.columnDefinition mapping field = .ok column →
        column.name = field.columnName ∧ column.type = catalog.dialect.typeName type)
      (inTable : ∀ statement, catalog.entityTable entity = .ok statement →
        catalog.DefinesColumn mapping statement field type)

theorem hasColumnType (mapped : catalog.mapping entity = .ok mapping)
    (member : field ∈ mapping.columnFields)
    (typed : catalog.storageType entity field.name = .ok type) :
    catalog.HasColumnType entity field.name type := by
  have alone : ∀ column, catalog.columnDefinition mapping field = .ok column →
      column.name = field.columnName ∧ column.type = catalog.dialect.typeName type := by
    intro column defined
    obtain ⟨found, foundTyped, continuation⟩ := bind_eq_ok.mp defined
    rw [mapping_entity mapped, typed] at foundTyped
    cases foundTyped
    obtain ⟨constraints, -, written⟩ := bind_eq_ok.mp continuation
    cases written
    exact ⟨rfl, rfl⟩
  refine .intro mapped member rfl typed alone fun statement created => ?_
  obtain ⟨found, foundMapped, continuation⟩ := bind_eq_ok.mp created
  rw [mapped] at foundMapped
  cases foundMapped
  obtain ⟨columns, each, written⟩ := bind_eq_ok.mp continuation
  cases written
  obtain ⟨column, atPlace, defined⟩ := exists_result_at (mapM_eq_ok.mp each) member
  exact ⟨columns, column, rfl, atPlace, alone column defined⟩

theorem storageType_key (mapped : catalog.mapping entity = .ok mapping) :
    ∃ scalar, mapping.key.type = .scalar scalar ∧
      catalog.storageType entity mapping.key.name = .ok (catalog.dialect.storageType scalar) := by
  obtain ⟨scalar, typed⟩ := scalar_key mapped
  have keyTyped := storageType_of_mem mapped (key_mem_columnFields mapped) typed
  rw [mapping_entity mapped] at keyTyped
  exact ⟨scalar, typed, keyTyped⟩

/-- A field that holds another entity has the storage type of that entity's key. -/
theorem storageType_association {association : Association} {target : Mapping}
    (mapped : catalog.mapping entity = .ok mapping) (member : field ∈ mapping.fields)
    (associated : field.type.association? = some association)
    (targeted : catalog.mapping association.target = .ok target) :
    catalog.storageType entity field.name =
      catalog.storageType association.target target.key.name := by
  obtain ⟨scalar, keyIs, keyTyped⟩ := storageType_key targeted
  rw [keyTyped]
  refine bind_eq_ok.mpr ⟨mapping, mapped, ?_⟩
  refine bind_eq_ok.mpr ⟨field, Mapping.field_eq_ok.mpr (field?_of_mem mapped member), ?_⟩
  cases typed : field.type with
  | scalar own =>
      rw [typed] at associated
      cases associated
  | association declared =>
      rw [typed] at associated
      cases associated
      refine bind_eq_ok.mpr ⟨target, targeted, ?_⟩
      rw [keyIs]

/-! ## Columns of join tables -/

/-- The column of a join table is named for the side and has the type that the column of the
side's field has. -/
def RefersTo (catalog : Catalog) (side : Side) (column : ColumnDefinition) : Prop :=
  column.name = side.joinColumn ∧
    ∃ type, column.type = catalog.dialect.typeName type ∧
      catalog.HasColumnType side.entity side.field type

theorem refersTo_joinColumnDefinition {side : Side} {column : ColumnDefinition}
    (mapped : catalog.mapping side.entity = .ok mapping)
    (member : field ∈ mapping.columnFields) (named : field.name = side.field)
    (defined : catalog.joinColumnDefinition side = .ok column) : catalog.RefersTo side column := by
  obtain ⟨type, typed, written⟩ := bind_eq_ok.mp defined
  cases written
  rw [← named] at typed
  exact ⟨rfl, type, rfl, named ▸ hasColumnType mapped member typed⟩

theorem refersTo_joinTableDefinition {name table : String} {relationship : Relationship}
    {columns : List ColumnDefinition} {jointKey : Option (String × String)}
    (resolved : catalog.relationship entity name = .ok relationship)
    (defined : catalog.joinTableDefinition relationship =
      .ok (.createTable table columns jointKey)) :
    relationship.joinTable? = some table ∧
      ∃ first second, columns = [first, second] ∧ catalog.RefersTo relationship.first first ∧
        catalog.RefersTo relationship.second second := by
  obtain ⟨_, tabled, continuation⟩ := bind_eq_ok.mp defined
  obtain ⟨first, firstDefined, continuation⟩ := bind_eq_ok.mp continuation
  obtain ⟨second, secondDefined, written⟩ := bind_eq_ok.mp continuation
  cases written
  have linked := Relationship.cardinality_eq_manyToMany.mpr
    ⟨table, Relationship.joinTable_eq_ok.mp tabled⟩
  obtain ⟨owner, target, ownerMapped, targetMapped, ⟨own, ownMember, ownNamed, hasColumn⟩,
    other, otherMember, otherNamed⟩ := fields_relationship resolved
  have ownColumn := List.mem_filter.mpr ⟨ownMember, hasColumn linked⟩
  exact ⟨Relationship.joinTable_iff.mp tabled, first, second, rfl,
    refersTo_joinColumnDefinition ownerMapped ownColumn ownNamed firstDefined,
    refersTo_joinColumnDefinition targetMapped otherMember otherNamed secondDefined⟩

/-- What the entities together declare, each of them declares alone. -/
theorem of_mem_declaredAmong {entities : List String} {declared : List Relationship}
    {relationship : Relationship} (declares : catalog.declaredAmong entities = .ok declared)
    (member : relationship ∈ declared) :
    ∃ entity ∈ entities, ∃ name, catalog.relationship entity name = .ok relationship := by
  obtain ⟨stored, named, continuation⟩ := bind_eq_ok.mp declares
  obtain ⟨groups, each, flattened⟩ := bind_eq_ok.mp continuation
  cases flattened
  obtain ⟨group, isGroup, inGroup⟩ := List.mem_flatten.mp member
  obtain ⟨entity, isStored, ofEntity⟩ := (mem_results_iff (mapM_eq_ok.mp each)).mp isGroup
  rw [storedNames_eq_ok named] at isStored
  exact ⟨entity, List.mem_of_mem_filter isStored,
    (mem_declaredRelationships_iff ofEntity).mp inGroup⟩

/-! ## Columns of one-to-one associations -/

/-- The link of a one-to-one association is written as a value of a given type. -/
def WritesLink (catalog : Catalog) (relationship : Relationship) (mapping : Mapping)
    (field : Field) (target : Mapping) (type : StorageType) : Prop :=
  ∀ owner related : Instance, owner.entity = mapping.entity → related.entity = target.entity →
    ∃ condition, catalog.updateOneToOne relationship owner related =
      .ok (.update mapping.table
        [(field.columnName, (related.value target.key.name).literalAs type)] condition)

theorem keyLiteral_of_typed {item : Instance}
    (mapped : catalog.mapping item.entity = .ok mapping)
    (typed : catalog.storageType item.entity mapping.key.name = .ok type) :
    catalog.keyLiteral item = .ok ((item.value mapping.key.name).literalAs type) := by
  rw [← mapping_entity mapped] at typed
  exact bind_eq_ok.mpr ⟨mapping, mapped, bind_eq_ok.mpr ⟨type, typed, rfl⟩⟩

theorem of_relationship_of_mem {association : Association} {relationship : Relationship}
    (mapped : catalog.mapping entity = .ok mapping) (member : field ∈ mapping.fields)
    (associated : field.type.association? = some association)
    (resolved : catalog.relationship entity field.name = .ok relationship) :
    ∃ target, catalog.mapping association.target = .ok target ∧
      Relationship.ofAssociation mapping field association target = .ok relationship := by
  obtain ⟨_, found, _, target, sameMapped, isField, foundAssociated, targeted, declared⟩ :=
    of_relationship_eq_ok resolved
  rw [mapped] at sameMapped
  cases sameMapped
  rw [field?_of_mem mapped member] at isField
  cases isField
  rw [associated] at foundAssociated
  cases foundAssociated
  exact ⟨target, targeted, declared⟩

theorem writesLink {association : Association} {target : Mapping} {relationship : Relationship}
    {column : String} (mapped : catalog.mapping entity = .ok mapping)
    (targeted : catalog.mapping association.target = .ok target)
    (typed : catalog.storageType association.target target.key.name = .ok type)
    (link : association.link = .oneToOne column)
    (declared : Relationship.ofAssociation mapping field association target = .ok relationship) :
    catalog.WritesLink relationship mapping field target type := by
  intro owner related owning owned
  have ownerMapped : catalog.mapping owner.entity = .ok mapping := owning ▸ mapping_self mapped
  have relatedMapped : catalog.mapping related.entity = .ok target :=
    owned ▸ mapping_self targeted
  rw [← mapping_entity targeted, ← owned] at typed
  have relatedKey := keyLiteral_of_typed relatedMapped typed
  obtain ⟨ownerKey, ownerWritten⟩ := exists_keyLiteral ownerMapped
  simp only [Relationship.ofAssociation, link] at declared
  cases declared
  refine ⟨.compare mapping.keyColumn .equal ownerKey, bind_eq_ok.mpr ⟨(), if_pos rfl, ?_⟩⟩
  refine bind_eq_ok.mpr ⟨(), if_pos owning.symm, ?_⟩
  refine bind_eq_ok.mpr ⟨(), if_pos owned.symm, ?_⟩
  refine bind_eq_ok.mpr ⟨mapping, ownerMapped, ?_⟩
  refine bind_eq_ok.mpr ⟨_, relatedKey, ?_⟩
  exact bind_eq_ok.mpr ⟨ownerKey, ownerWritten, rfl⟩

/-! ## Tables that refer to each other -/

/-- Among the statements are the definitions of the tables of the stored entities. In each join
table both columns have the types of the fields that they are named for. The column of each
one-to-one association has the type of the key of its target, and links are written into it as
values of this type. -/
structure HasTypedReferences (catalog : Catalog) (entities : List String)
    (statements : List Statement) : Prop where
  defined : ∀ entity ∈ entities, catalog.isPersistent entity = true →
    ∃ statement ∈ statements, catalog.entityTable entity = .ok statement
  joined : ∀ table columns jointKey,
    .createTable table columns (some jointKey) ∈ statements →
      ∃ entity ∈ entities, ∃ name relationship,
        catalog.relationship entity name = .ok relationship ∧
        relationship.joinTable? = some table ∧
        ∃ first second, columns = [first, second] ∧
          catalog.RefersTo relationship.first first ∧
          catalog.RefersTo relationship.second second
  referring : ∀ entity ∈ entities, ∀ mapping, catalog.mapping entity = .ok mapping →
    ∀ field ∈ mapping.columnFields, ∀ association,
      field.type.association? = some association →
        ∃ target relationship type, catalog.mapping association.target = .ok target ∧
          catalog.relationship entity field.name = .ok relationship ∧
          catalog.HasColumnType entity field.name type ∧
          catalog.HasColumnType association.target target.key.name type ∧
          catalog.WritesLink relationship mapping field target type

theorem hasTypedReferences_of_createTables {entities : List String}
    {statements : List Statement}
    (created : catalog.createTables entities = .ok statements) :
    catalog.HasTypedReferences entities statements := by
  constructor
  case defined =>
    intro entity listed persistent
    obtain ⟨stored, tables, -, joinTables, named, tabled, -, -, rfl⟩ :=
      stages_of_createTables created
    obtain ⟨statement, isTable, defined⟩ :=
      exists_result tabled (of_storedNames_eq_ok named listed persistent).1
    exact ⟨statement, List.mem_append_left joinTables isTable, defined⟩
  case joined =>
    intro table columns jointKey isStatement
    obtain ⟨declared, tables, joinTables, declares, rfl, entityTables, defined⟩ :=
      of_createTables_eq_ok created
    have isJoined := (List.mem_append.mp isStatement).resolve_left
      (entityTables table columns jointKey)
    obtain ⟨relationship, kept, definition⟩ := (mem_results_iff defined).mp isJoined
    obtain ⟨_, -, found⟩ := mem_distinctByJoinTable.mp kept
    obtain ⟨entity, listed, name, resolved⟩ :=
      of_mem_declaredAmong declares (List.mem_of_find?_eq_some found)
    exact ⟨entity, listed, name, relationship, resolved,
      refersTo_joinTableDefinition resolved definition⟩
  case referring =>
    intro entity listed mapping mapped field member association associated
    obtain ⟨stored, -, -, -, named, -⟩ := stages_of_createTables created
    obtain ⟨relationships, declared⟩ :=
      (of_storedNames_eq_ok named listed (isPersistent_of_mapping mapped)).2
    obtain ⟨isField, hasColumn⟩ := List.mem_filter.mp member
    obtain ⟨relationship, resolved⟩ := relationship_of_declaredRelationships mapped declared
      isField (by rw [associated]; rfl)
    obtain ⟨target, targeted, isDeclared⟩ :=
      of_relationship_of_mem mapped isField associated resolved
    obtain ⟨column, link⟩ := (Field.hasColumn_iff_oneToOne associated).mp hasColumn
    obtain ⟨scalar, -, keyTyped⟩ := storageType_key targeted
    have typed := (storageType_association mapped isField associated targeted).trans keyTyped
    exact ⟨target, relationship, _, targeted, resolved, hasColumnType mapped member typed,
      hasColumnType targeted (key_mem_columnFields targeted) keyTyped,
      writesLink mapped targeted keyTyped link isDeclared⟩

/-! ## Badges -/

/-- Doors and the badges that open them. A badge is told by its owner, whose key is a text. -/
def badgeCatalog : Catalog where
  schema := ⟨[
    { name := "Door"
      fields := [
        { name := "id", type := .scalar .int32, isPrimaryKey := true },
        { name := "badges"
          type := .association ⟨"badges", "Badge", .manyToMany "access" "id" "owner"⟩ }] },
    { name := "Badge"
      fields := [
        { name := "id", type := .scalar .int64, isPrimaryKey := true },
        { name := "owner"
          type := .association ⟨"owner", "Person", .oneToOne "owner_name"⟩ }] },
    { name := "Person"
      fields := [{ name := "name", type := .scalar .string, isPrimaryKey := true }] }]⟩

/-- The owner is written into the join table as text, also if persons are not defined along. -/
theorem hasTypedReferences_of_createTables_badges :
    ∃ statements, badgeCatalog.createTables ["Door", "Badge"] = .ok statements ∧
      .createTable "access" [⟨"door_id", "INTEGER", []⟩, ⟨"badge_owner_name", "TEXT", []⟩]
        (some ("door_id", "badge_owner_name")) ∈ statements ∧
      badgeCatalog.HasTypedReferences ["Door", "Badge"] statements :=
  ⟨_, rfl, by decide +kernel, hasTypedReferences_of_createTables rfl⟩

end Persistence.Catalog
