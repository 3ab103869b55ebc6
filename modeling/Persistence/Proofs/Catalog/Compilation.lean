import Persistence.Proofs.Catalog.Validation
import Persistence.Query
import Persistence.Sql.Linking

/-!
# Statements of validated schemas

Defining the tables of all entities resolves whatever a later statement resolves. So once it
has succeeded, no statement on rows or links fails, apart from queries whose criteria name
what is no column.
-/

set_option autoImplicit false

namespace Persistence.Catalog

open Schema

/-- The error of a criterion on what is no column of the entity. -/
def IsInvalidCriteria (entity : String) (fault : Error) : Prop :=
  ∃ field, fault = .invalidCriteria entity field

/-! ## Rows -/

variable {catalog : Catalog} {entity : String} {mapping : Mapping} {item : Instance}

theorem exists_keyLiteral (mapped : catalog.mapping item.entity = .ok mapping) :
    ∃ literal, catalog.keyLiteral item = .ok literal := by
  obtain ⟨scalar, typed⟩ := scalar_key mapped
  have storageType := storageType_of_mem mapped (key_mem_columnFields mapped) typed
  exact exists_bind mapped (exists_bind storageType ⟨_, rfl⟩)

theorem exists_delete (mapped : catalog.mapping item.entity = .ok mapping) :
    ∃ statement, catalog.delete item = .ok statement := by
  obtain ⟨key, keyed⟩ := exists_keyLiteral mapped
  exact exists_bind mapped (exists_bind keyed ⟨_, rfl⟩)

namespace Validated

theorem exists_fieldLiteral (validated : catalog.Validated)
    (mapped : catalog.mapping entity = .ok mapping) {field : Field}
    (member : field ∈ mapping.columnFields) (item : Instance) :
    ∃ literal, catalog.fieldLiteral mapping item field = .ok literal := by
  obtain ⟨type, typed⟩ := validated.typed mapped field member
  rw [← mapping_entity mapped] at typed
  exact exists_bind typed ⟨_, rfl⟩

theorem exists_fieldLiterals (validated : catalog.Validated)
    (mapped : catalog.mapping entity = .ok mapping) (selected : Field → Bool)
    (item : Instance) :
    ∃ literals, (mapping.columnFields.filter selected).mapM (catalog.fieldLiteral mapping item) =
      .ok literals :=
  exists_mapM fun _ member => validated.exists_fieldLiteral mapped (List.mem_of_mem_filter member)
    item

theorem exists_leavesKeyToStorage (validated : catalog.Validated)
    (mapped : catalog.mapping item.entity = .ok mapping) :
    ∃ skipsKey, catalog.leavesKeyToStorage mapping item = .ok skipsKey := by
  obtain ⟨key, keyed⟩ := exists_keyValue mapped
  obtain ⟨lacksKey, lacking⟩ : ∃ lacksKey, catalog.lacksKey item = .ok lacksKey :=
    exists_bind keyed ⟨_, rfl⟩
  refine exists_bind lacking ?_
  cases lacksKey with
  | false => exact ⟨false, rfl⟩
  | true =>
      rw [if_pos rfl, mapping_entity mapped]
      exact validated.numbered mapped

theorem exists_insert (validated : catalog.Validated)
    (mapped : catalog.mapping item.entity = .ok mapping) :
    ∃ statement, catalog.insert item = .ok statement := by
  obtain ⟨skipsKey, skipped⟩ := validated.exists_leavesKeyToStorage mapped
  obtain ⟨values, valued⟩ := validated.exists_fieldLiterals mapped
    (fun field => !(skipsKey && mapping.isKey field.name)) item
  exact exists_bind mapped (exists_bind skipped (exists_bind valued ⟨_, rfl⟩))

theorem exists_update (validated : catalog.Validated)
    (mapped : catalog.mapping item.entity = .ok mapping) :
    ∃ statement, catalog.update item = .ok statement := by
  obtain ⟨values, valued⟩ := validated.exists_fieldLiterals mapped
    (fun field => !mapping.isKey field.name) item
  obtain ⟨key, keyed⟩ := exists_keyLiteral mapped
  refine exists_bind mapped (exists_bind valued ?_)
  split
  · exact ⟨none, rfl⟩
  · exact exists_bind keyed ⟨_, rfl⟩

/-! ## Queries -/

theorem failsOnly_criterionColumn (validated : catalog.Validated)
    (mapped : catalog.mapping entity = .ok mapping) (field : String) :
    FailsOnly (IsInvalidCriteria entity) (catalog.criterionColumn mapping field) := by
  have invalid {α : Type} : FailsOnly (IsInvalidCriteria entity)
      (.error (.invalidCriteria mapping.entity field) : Except Error α) := by
    intro fault failed
    cases failed
    exact ⟨field, by rw [mapping_entity mapped]⟩
  unfold criterionColumn
  cases isField : mapping.field? field with
  | none => exact invalid
  | some found =>
      dsimp only
      split
      · rename_i hasColumn
        have named : found.name = field := by simpa using List.find?_some isField
        obtain ⟨type, typed⟩ := validated.typed mapped found
          (List.mem_filter.mpr ⟨List.mem_of_find?_eq_some isField, hasColumn⟩)
        rw [named, ← mapping_entity mapped] at typed
        exact .of_ok (bind_eq_ok.mpr ⟨type, typed, rfl⟩)
      · exact invalid

theorem failsOnly_condition (validated : catalog.Validated)
    (mapped : catalog.mapping entity = .ok mapping) (criterion : Criterion) :
    FailsOnly (IsInvalidCriteria entity) (catalog.condition mapping criterion) := by
  have column (field : String) := validated.failsOnly_criterionColumn mapped field
  induction criterion with
  | compare field comparison value => exact (column field).bind fun _ _ => .of_ok rfl
  | between field low high => exact (column field).bind fun _ _ => .of_ok rfl
  | isIn field values => exact (column field).bind fun _ _ => .of_ok rfl
  | like field pattern => exact (column field).bind fun _ _ => .of_ok rfl
  | isNull field => exact (column field).bind fun _ _ => .of_ok rfl
  | isNotNull field => exact (column field).bind fun _ _ => .of_ok rfl
  | both left right leftIH rightIH =>
      exact leftIH.bind fun _ _ => rightIH.bind fun _ _ => .of_ok rfl
  | either left right leftIH rightIH =>
      exact leftIH.bind fun _ _ => rightIH.bind fun _ _ => .of_ok rfl
  | verbatim fragment => exact .of_ok rfl

theorem failsOnly_selection (validated : catalog.Validated)
    (projection : Projection) (query : Query)
    (mapped : catalog.mapping query.entity = .ok mapping) :
    FailsOnly (IsInvalidCriteria query.entity) (catalog.selection projection query) := by
  refine FailsOnly.bind (.of_ok mapped) fun found foundMapped => ?_
  refine FailsOnly.bind (.mapM fun criterion _ => ?_) fun _ _ => .of_ok rfl
  exact validated.failsOnly_condition foundMapped criterion

/-! ## Links -/

variable {field : String} {relationship : Relationship}

theorem exists_sideLiterals (validated : catalog.Validated)
    (resolved : catalog.relationship entity field = .ok relationship)
    (linked : relationship.cardinality = .manyToMany) (value : Value) :
    (∃ literal, catalog.sideLiteral relationship.first value = .ok literal) ∧
      ∃ literal, catalog.sideLiteral relationship.second value = .ok literal := by
  obtain ⟨owner, target, owned, targeted, ⟨own, stored, ownNamed, hasColumn⟩, other,
    otherMember, otherNamed⟩ := fields_relationship resolved
  obtain ⟨ownType, ownTyped⟩ := validated.typed owned own
    (List.mem_filter.mpr ⟨stored, hasColumn linked⟩)
  obtain ⟨otherType, otherTyped⟩ := validated.typed targeted other otherMember
  rw [ownNamed] at ownTyped
  rw [otherNamed] at otherTyped
  exact ⟨exists_bind ownTyped ⟨_, rfl⟩, exists_bind otherTyped ⟨_, rfl⟩⟩

theorem second_of_includes {participant : String}
    (included : relationship.includes participant = true)
    (apart : relationship.first.entity ≠ participant) :
    relationship.second.entity = participant := by
  simpa [Relationship.includes, apart] using included

/-- A participant is on the first side or else on the second one. -/
theorem sides_of_includes {participant : String}
    (included : relationship.includes participant = true) :
    relationship.sides participant = .ok (relationship.first, relationship.second) ∧
        relationship.first.entity = participant ∨
      relationship.sides participant = .ok (relationship.second, relationship.first) ∧
        relationship.second.entity = participant := by
  unfold Relationship.sides
  by_cases onFirst : relationship.first.entity = participant
  · exact .inl ⟨if_pos onFirst, onFirst⟩
  · have onSecond := second_of_includes included onFirst
    exact .inr ⟨by rw [if_neg onFirst, if_pos onSecond], onSecond⟩

theorem exists_selectLinked (linked : relationship.cardinality = .manyToMany)
    {queried : String} (included : relationship.includes queried = true) (key : Value) :
    ∃ statement, selectLinked relationship key queried = .ok statement := by
  obtain ⟨table, kind⟩ := Relationship.cardinality_eq_manyToMany.mp linked
  refine exists_bind (Relationship.joinTable_eq_ok.mpr kind) ?_
  dsimp only
  by_cases onFirst : relationship.first.entity = queried
  · exact ⟨_, if_pos onFirst⟩
  · rw [if_neg onFirst, if_pos (second_of_includes included onFirst)]
    exact ⟨_, rfl⟩

theorem exists_relationshipField (resolved : catalog.relationship entity field = .ok relationship)
    {participant : String} (included : relationship.includes participant = true) :
    ∃ found, catalog.relationshipField participant relationship = .ok found := by
  obtain ⟨owner, target, owned, targeted, ⟨own, stored, ownNamed, -⟩, other, otherMember,
    otherNamed⟩ := fields_relationship resolved
  rcases sides_of_includes included with ⟨sided, rfl⟩ | ⟨sided, rfl⟩
  · refine exists_bind sided (exists_bind owned ⟨own, ?_⟩)
    rw [Mapping.field_eq_ok, ← ownNamed]
    exact field?_of_mem owned stored
  · refine exists_bind sided (exists_bind targeted ⟨other, ?_⟩)
    rw [Mapping.field_eq_ok, ← otherNamed]
    exact field?_of_mem targeted (List.mem_of_mem_filter otherMember)

section ManyToMany

variable (validated : catalog.Validated)
  (resolved : catalog.relationship entity field = .ok relationship)
  (linked : relationship.cardinality = .manyToMany)

include validated resolved linked

/-- A participant of a many-to-many relationship has a side whose value is written, and so has
what it is linked with. -/
theorem exists_participation (included : relationship.includes item.entity = true)
    (related : Value) :
    ∃ table own other, relationship.joinTable = .ok table ∧
      relationship.sides item.entity = .ok (own, other) ∧
      (∃ literal, catalog.sideLiteral own (item.value own.field) = .ok literal) ∧
      ∃ literal, catalog.sideLiteral other related = .ok literal := by
  obtain ⟨table, kind⟩ := Relationship.cardinality_eq_manyToMany.mp linked
  have writes (value : Value) := validated.exists_sideLiterals resolved linked value
  have tabled := Relationship.joinTable_eq_ok.mpr kind
  rcases sides_of_includes included with ⟨sided, -⟩ | ⟨sided, -⟩
  · exact ⟨table, _, _, tabled, sided, (writes _).1, (writes related).2⟩
  · exact ⟨table, _, _, tabled, sided, (writes _).2, (writes related).1⟩

theorem exists_deleteStaleLinks (included : relationship.includes item.entity = true)
    (kept : List Value) :
    ∃ statement, catalog.deleteStaleLinks relationship item kept = .ok statement := by
  obtain ⟨table, own, other, tabled, sided, ⟨owner, owned⟩, -⟩ :=
    validated.exists_participation resolved linked included .null
  exact exists_bind tabled (exists_bind sided (exists_bind owned ⟨_, rfl⟩))

theorem exists_deleteLinks (included : relationship.includes item.entity = true) :
    ∃ statement, catalog.deleteLinks relationship item = .ok statement := by
  obtain ⟨table, own, other, tabled, sided, ⟨owner, owned⟩, -⟩ :=
    validated.exists_participation resolved linked included .null
  exact exists_bind tabled (exists_bind sided (exists_bind owned ⟨_, rfl⟩))

theorem exists_insertLink (included : relationship.includes item.entity = true)
    (relatedKey : Value) :
    ∃ statement, catalog.insertLink relationship item relatedKey = .ok statement := by
  obtain ⟨table, own, other, tabled, sided, ⟨owner, owned⟩, related, isRelated⟩ :=
    validated.exists_participation resolved linked included relatedKey
  exact exists_bind tabled
    (exists_bind sided (exists_bind owned (exists_bind isRelated ⟨_, rfl⟩)))

end ManyToMany

theorem exists_updateForeignKeys (validated : catalog.Validated)
    (resolved : catalog.relationship entity field = .ok relationship)
    (collected : relationship.cardinality = .oneToMany)
    (owning : item.entity = relationship.first.entity) (relatedKeys : List Value) :
    ∃ statement, catalog.updateForeignKeys relationship item relatedKeys = .ok statement := by
  obtain ⟨owner, target, owned, targeted, -⟩ := fields_relationship resolved
  obtain ⟨column, kind⟩ := Relationship.cardinality_eq_oneToMany.mp collected
  have columned : relationship.collectionColumn = .ok column := by
    rw [Relationship.collectionColumn, kind]
  have first : relationship.requireFirst item.entity = .ok () := if_pos owning.symm
  refine exists_bind columned (exists_bind first ?_)
  split
  · exact ⟨none, rfl⟩
  · rw [← owning] at owned
    obtain ⟨type, typed⟩ := validated.typed targeted _ (key_mem_columnFields targeted)
    rw [← mapping_entity targeted] at typed
    obtain ⟨key, keyed⟩ := exists_keyLiteral owned
    exact exists_bind targeted (exists_bind typed (exists_bind keyed ⟨_, rfl⟩))

end Validated

theorem exists_updateOneToOne {field : String} {relationship : Relationship}
    (resolved : catalog.relationship entity field = .ok relationship)
    (single : relationship.cardinality = .oneToOne) {related : Instance}
    (owning : item.entity = relationship.first.entity)
    (owned : related.entity = relationship.second.entity) :
    ∃ statement, catalog.updateOneToOne relationship item related = .ok statement := by
  obtain ⟨owner, target, ownerMapped, targetMapped, -⟩ := fields_relationship resolved
  rw [← owning] at ownerMapped
  rw [← owned] at targetMapped
  obtain ⟨relatedKey, relatedKeyed⟩ := exists_keyLiteral targetMapped
  obtain ⟨key, keyed⟩ := exists_keyLiteral ownerMapped
  have expected : relationship.requireCardinality .oneToOne = .ok () := if_pos single
  have first : relationship.requireFirst item.entity = .ok () := if_pos owning.symm
  have second : relationship.requireSecond related.entity = .ok () := if_pos owned.symm
  exact exists_bind expected (exists_bind first (exists_bind second
    (exists_bind ownerMapped (exists_bind relatedKeyed (exists_bind keyed ⟨_, rfl⟩)))))

/-! ## What no longer fails -/

/-- The statements on the rows of an entity compile, those of a query unless its criteria are
at fault, and names resolve to relationships exactly if they are those of stored associations. -/
structure ServesRows (catalog : Catalog) (entity : String) : Prop where
  insert : ∀ item : Instance, item.entity = entity →
    ∃ statement, catalog.insert item = .ok statement
  update : ∀ item : Instance, item.entity = entity →
    ∃ statement, catalog.update item = .ok statement
  delete : ∀ item : Instance, item.entity = entity →
    ∃ statement, catalog.delete item = .ok statement
  select : ∀ query : Query, query.entity = entity →
    FailsOnly (IsInvalidCriteria entity) (catalog.select query)
  count : ∀ query : Query, query.entity = entity →
    FailsOnly (IsInvalidCriteria entity) (catalog.count query)
  relationship : ∀ definition, catalog.schema.entity? entity = some definition → ∀ name,
    (∃ relationship, catalog.relationship entity name = .ok relationship) ↔
      ∃ field ∈ definition.persistentFields,
        field.name = name ∧ field.type.association?.isSome = true

/-- The statements on the links of a relationship compile for all of its participants. -/
structure ServesLinks (catalog : Catalog) (relationship : Relationship) : Prop where
  relationshipField : ∀ entity, relationship.includes entity = true →
    ∃ field, catalog.relationshipField entity relationship = .ok field
  selectLinked : relationship.cardinality = .manyToMany →
    ∀ key queried, relationship.includes queried = true →
      ∃ statement, selectLinked relationship key queried = .ok statement
  deleteStaleLinks : relationship.cardinality = .manyToMany →
    ∀ (item : Instance) kept, relationship.includes item.entity = true →
      ∃ statement, catalog.deleteStaleLinks relationship item kept = .ok statement
  deleteLinks : relationship.cardinality = .manyToMany →
    ∀ item : Instance, relationship.includes item.entity = true →
      ∃ statement, catalog.deleteLinks relationship item = .ok statement
  insertLink : relationship.cardinality = .manyToMany →
    ∀ (item : Instance) relatedKey, relationship.includes item.entity = true →
      ∃ statement, catalog.insertLink relationship item relatedKey = .ok statement
  updateForeignKeys : relationship.cardinality = .oneToMany →
    ∀ (owner : Instance) relatedKeys, owner.entity = relationship.first.entity →
      ∃ statement, catalog.updateForeignKeys relationship owner relatedKeys = .ok statement
  updateOneToOne : relationship.cardinality = .oneToOne →
    ∀ owner related : Instance, owner.entity = relationship.first.entity →
      related.entity = relationship.second.entity →
      ∃ statement, catalog.updateOneToOne relationship owner related = .ok statement

theorem Validated.servesRows {catalog : Catalog} (validated : catalog.Validated)
    {entity : String} (persistent : catalog.isPersistent entity = true) :
    catalog.ServesRows entity := by
  obtain ⟨mapping, mapped⟩ := validated.mapped persistent
  constructor
  case insert => exact fun item named => validated.exists_insert (named ▸ mapped)
  case update => exact fun item named => validated.exists_update (named ▸ mapped)
  case delete => exact fun item named => exists_delete (named ▸ mapped)
  case select =>
    rintro query rfl
    exact validated.failsOnly_selection .rows query mapped
  case count =>
    rintro query rfl
    exact validated.failsOnly_selection .rowCount query mapped
  case relationship =>
    intro definition found name
    obtain ⟨declared, isDeclared, stored⟩ := isPersistent_eq_true.mp persistent
    rw [found] at isDeclared
    cases isDeclared
    exact validated.exists_relationship_iff found stored name

theorem Validated.servesLinks {catalog : Catalog} (validated : catalog.Validated)
    {entity field : String} {relationship : Relationship}
    (resolved : catalog.relationship entity field = .ok relationship) :
    catalog.ServesLinks relationship := by
  constructor
  case relationshipField => exact fun _ included => exists_relationshipField resolved included
  case selectLinked =>
    exact fun linked key _ included => Validated.exists_selectLinked linked included key
  case deleteStaleLinks =>
    exact fun linked item kept included =>
      validated.exists_deleteStaleLinks resolved linked included kept
  case deleteLinks =>
    exact fun linked item included => validated.exists_deleteLinks resolved linked included
  case insertLink =>
    exact fun linked item relatedKey included =>
      validated.exists_insertLink resolved linked included relatedKey
  case updateForeignKeys =>
    exact fun collected owner relatedKeys owning =>
      validated.exists_updateForeignKeys resolved collected owning relatedKeys
  case updateOneToOne =>
    exact fun single owner related owning owned =>
      exists_updateOneToOne resolved single owning owned

/-- Once the tables of all entities of a schema with distinct names are defined, no schema is
found at fault any more: the statements on rows and links compile, and a query fails only if
one of its criteria names what is no column. -/
theorem serves_of_createTables {catalog : Catalog} {statements : List Statement}
    (distinct : catalog.schema.entityNames.Nodup)
    (created : catalog.createTables catalog.schema.entityNames = .ok statements) :
    (∀ entity, catalog.isPersistent entity = true → catalog.ServesRows entity) ∧
      (∃ relationships, catalog.allManyToMany = .ok relationships) ∧
      (∀ entity, ∃ relationships, catalog.manyToManyRelationships entity = .ok relationships) ∧
      ∀ entity field relationship, catalog.relationship entity field = .ok relationship →
        catalog.ServesLinks relationship := by
  have validated := validated_of_createTables created
  obtain ⟨relationships, gathered⟩ := validated.exists_allManyToMany distinct
  refine ⟨fun _ persistent => validated.servesRows persistent, ⟨relationships, gathered⟩,
    fun _ => exists_bind gathered ⟨_, rfl⟩, ?_⟩
  exact fun _ _ _ resolved => validated.servesLinks resolved

/-! ## Authors and books -/

/-- Authors with books and prizes. What they are drafting is kept out of storage. -/
def libraryCatalog : Catalog where
  schema := ⟨[
    { name := "Author"
      table := some "author"
      fields := [
        { name := "id", type := .scalar .int64, isPrimaryKey := true, isAutoIncrement := true },
        { name := "books", type := .association ⟨"books", "Book", .oneToMany "author_id"⟩ },
        { name := "prizes"
          type := .association ⟨"prizes", "Prize", .manyToMany "award" "id" "title"⟩ },
        { name := "draft"
          type := .association ⟨"draft", "Book", .oneToOne "draft_id"⟩, isTransient := true }] },
    { name := "Book"
      table := some "book"
      fields := [
        { name := "isbn", type := .scalar .string, isPrimaryKey := true },
        { name := "author"
          type := .association ⟨"author", "Author", .oneToOne "author_id"⟩ }] },
    { name := "Prize"
      table := some "prize"
      fields := [{ name := "title", type := .scalar .string, isPrimaryKey := true }] },
    { name := "Shelf", isTransient := true }]⟩

theorem serves_of_createTables_library :
    ∃ statements, libraryCatalog.schema.entityNames.Nodup ∧
      libraryCatalog.createTables libraryCatalog.schema.entityNames = .ok statements ∧
      (∀ entity, libraryCatalog.isPersistent entity = true → libraryCatalog.ServesRows entity) ∧
      (∃ relationships, libraryCatalog.allManyToMany = .ok relationships) ∧
      (∀ entity, ∃ relationships,
        libraryCatalog.manyToManyRelationships entity = .ok relationships) ∧
      ∀ entity field relationship,
        libraryCatalog.relationship entity field = .ok relationship →
          libraryCatalog.ServesLinks relationship := by
  have distinct : libraryCatalog.schema.entityNames.Nodup := by decide
  exact ⟨_, distinct, rfl, serves_of_createTables distinct rfl⟩

/-- An association that is kept out of storage is none of the relationships of its entity. -/
theorem not_relationship_draft :
    libraryCatalog.schema.entityNames.Nodup ∧
      (∃ statements,
        libraryCatalog.createTables libraryCatalog.schema.entityNames = .ok statements) ∧
      libraryCatalog.isPersistent "Author" = true ∧
      (∃ definition field, libraryCatalog.schema.entity? "Author" = some definition ∧
        field ∈ definition.fields ∧ field.name = "draft" ∧
        field.type.association?.isSome = true) ∧
      ¬ ∃ relationship, libraryCatalog.relationship "Author" "draft" = .ok relationship := by
  refine ⟨by decide, ⟨_, rfl⟩, by decide, ?_, ?_⟩
  · exact ⟨_, _, rfl, List.mem_of_getElem? (i := 3) rfl, rfl, rfl⟩
  · rintro ⟨relationship, resolved⟩
    cases resolved

end Persistence.Catalog
