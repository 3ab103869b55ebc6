import Persistence.Proofs.Catalog.Resolution
import Persistence.Sql.Definition

/-!
# Validated schemas

What is known of a schema once the tables of all of its entities are defined: every stored
entity has a mapping, every column a storage type, every generated key an integer, and every
stored association resolves.
-/

set_option autoImplicit false

namespace Persistence.Catalog

open Schema

/-! ## What the definition of tables has checked -/

/-- What has been checked once the tables of all entities are defined. -/
structure Validated (catalog : Catalog) : Prop where
  mapped : ∀ {entity : String}, catalog.isPersistent entity = true →
    ∃ mapping, catalog.mapping entity = .ok mapping
  typed : ∀ {entity : String} {mapping : Mapping}, catalog.mapping entity = .ok mapping →
    ∀ field ∈ mapping.columnFields, ∃ type, catalog.storageType entity field.name = .ok type
  numbered : ∀ {entity : String} {mapping : Mapping}, catalog.mapping entity = .ok mapping →
    ∃ isGenerated, catalog.isAutoIncrement entity mapping.key.name = .ok isGenerated
  related : ∀ {entity : String} {mapping : Mapping}, catalog.mapping entity = .ok mapping →
    ∀ field ∈ mapping.fields, field.type.association?.isSome = true →
      ∃ relationship, catalog.relationship entity field.name = .ok relationship

section Definition

variable {catalog : Catalog} {entity : String} {mapping : Mapping}

theorem isPersistent_eq_true : catalog.isPersistent entity = true ↔
    ∃ definition, catalog.schema.entity? entity = some definition ∧
      definition.isTransient = false := by
  unfold isPersistent
  cases catalog.schema.entity? entity <;> simp [Entity.isPersistent]

theorem isPersistent_of_mapping (mapped : catalog.mapping entity = .ok mapping) :
    catalog.isPersistent entity = true := by
  obtain ⟨definition, found, described⟩ := mapping_eq_ok.mp mapped
  obtain ⟨stored, -⟩ := Mapping.ofEntity_eq_ok.mp described
  exact isPersistent_eq_true.mpr ⟨definition, found, stored⟩

theorem mem_entityNames_of_isPersistent (persistent : catalog.isPersistent entity = true) :
    entity ∈ catalog.schema.entityNames := by
  obtain ⟨definition, found, -⟩ := isPersistent_eq_true.mp persistent
  rw [← name_of_entity? found]
  exact List.mem_map_of_mem (List.mem_of_find?_eq_some found)

theorem storedName_eq_ok (persistent : catalog.isPersistent entity = true)
    {names : List String} (named : catalog.storedName entity = .ok names) :
    names = [entity] ∧ ∃ relationships, catalog.declaredRelationships entity =
      .ok relationships := by
  obtain ⟨definition, found, -⟩ := isPersistent_eq_true.mp persistent
  unfold storedName at named
  rw [if_neg (by simp [found]), if_pos persistent] at named
  obtain ⟨relationships, declared, written⟩ := bind_eq_ok.mp named
  cases written
  exact ⟨rfl, relationships, declared⟩

theorem of_storedNames_eq_ok {entities stored : List String}
    (named : catalog.storedNames entities = .ok stored) (member : entity ∈ entities)
    (persistent : catalog.isPersistent entity = true) :
    entity ∈ stored ∧ ∃ relationships, catalog.declaredRelationships entity =
      .ok relationships := by
  obtain ⟨names, each, written⟩ := bind_eq_ok.mp named
  cases written
  obtain ⟨own, isOwn, ownNamed⟩ := exists_result (mapM_eq_ok.mp each) member
  obtain ⟨rfl, declared⟩ := storedName_eq_ok persistent ownNamed
  exact ⟨List.mem_flatten_of_mem isOwn List.mem_cons_self, declared⟩

/-- A declared association of an entity is resolved with all of its relationships. -/
theorem relationship_of_declaredRelationships {relationships : List Relationship}
    (mapped : catalog.mapping entity = .ok mapping)
    (declared : catalog.declaredRelationships entity = .ok relationships) {field : Field}
    (member : field ∈ mapping.fields) (associated : field.type.association?.isSome = true) :
    ∃ relationship, catalog.relationship entity field.name = .ok relationship := by
  obtain ⟨found, foundMapped, each⟩ := bind_eq_ok.mp declared
  rw [mapped] at foundMapped
  cases foundMapped
  obtain ⟨relationship, -, resolved⟩ :=
    exists_result (mapM_eq_ok.mp each) (List.mem_filter.mpr ⟨member, associated⟩)
  exact ⟨relationship, resolved⟩

theorem of_columnDefinition_eq_ok {field : Field} {column : ColumnDefinition}
    (defined : catalog.columnDefinition mapping field = .ok column) :
    (∃ type, catalog.storageType mapping.entity field.name = .ok type) ∧
      (mapping.isKey field.name = true →
        ∃ isGenerated, catalog.isAutoIncrement mapping.entity field.name = .ok isGenerated) := by
  obtain ⟨type, typed, continuation⟩ := bind_eq_ok.mp defined
  obtain ⟨constraints, constrained, -⟩ := bind_eq_ok.mp continuation
  refine ⟨⟨type, typed⟩, fun isKey => ?_⟩
  rw [columnConstraints, if_pos isKey] at constrained
  obtain ⟨isGenerated, generated, -⟩ := bind_eq_ok.mp constrained
  exact ⟨isGenerated, generated⟩

theorem of_entityTable_eq_ok {statement : Statement}
    (mapped : catalog.mapping entity = .ok mapping)
    (tabled : catalog.entityTable entity = .ok statement) :
    ∀ field ∈ mapping.columnFields, ∃ column,
      catalog.columnDefinition mapping field = .ok column := by
  intro field member
  obtain ⟨found, foundMapped, continuation⟩ := bind_eq_ok.mp tabled
  rw [mapped] at foundMapped
  cases foundMapped
  obtain ⟨columns, each, -⟩ := bind_eq_ok.mp continuation
  obtain ⟨column, -, defined⟩ := exists_result (mapM_eq_ok.mp each) member
  exact ⟨column, defined⟩

/-- The tables of the stored entities are defined first, then those of the relationships that
they declare. -/
theorem stages_of_createTables {entities : List String} {statements : List Statement}
    (created : catalog.createTables entities = .ok statements) :
    ∃ stored tables relationships joinTables, catalog.storedNames entities = .ok stored ∧
      List.Forall₂ (fun name statement => catalog.entityTable name = .ok statement)
        stored tables ∧
      catalog.manyToManyAmong stored = .ok relationships ∧
      List.Forall₂ (fun relationship statement =>
        catalog.joinTableDefinition relationship = .ok statement) relationships joinTables ∧
      statements = tables ++ joinTables := by
  obtain ⟨stored, named, continuation⟩ := bind_eq_ok.mp created
  obtain ⟨tables, tabled, continuation⟩ := bind_eq_ok.mp continuation
  obtain ⟨relationships, gathered, continuation⟩ := bind_eq_ok.mp continuation
  obtain ⟨joinTables, joined, written⟩ := bind_eq_ok.mp continuation
  cases written
  exact ⟨stored, tables, relationships, joinTables, named, mapM_eq_ok.mp tabled, gathered,
    mapM_eq_ok.mp joined, rfl⟩

theorem validated_of_createTables {statements : List Statement}
    (created : catalog.createTables catalog.schema.entityNames = .ok statements) :
    catalog.Validated := by
  obtain ⟨stored, tables, -, -, named, tabled, -⟩ := stages_of_createTables created
  have declares : ∀ {entity}, catalog.isPersistent entity = true → entity ∈ stored ∧
      ∃ relationships, catalog.declaredRelationships entity = .ok relationships :=
    fun persistent => of_storedNames_eq_ok named (mem_entityNames_of_isPersistent persistent)
      persistent
  have columns : ∀ {entity mapping}, catalog.mapping entity = .ok mapping →
      ∀ field ∈ mapping.columnFields, ∃ column,
        catalog.columnDefinition mapping field = .ok column := by
    intro entity mapping mapped
    obtain ⟨table, -, defined⟩ := exists_result tabled
      (declares (isPersistent_of_mapping mapped)).1
    exact of_entityTable_eq_ok mapped defined
  constructor
  case mapped =>
    intro entity persistent
    obtain ⟨relationships, declared⟩ := (declares persistent).2
    obtain ⟨mapping, mapped, -⟩ := bind_eq_ok.mp declared
    exact ⟨mapping, mapped⟩
  case typed =>
    intro entity mapping mapped field member
    obtain ⟨column, defined⟩ := columns mapped field member
    rw [← mapping_entity mapped]
    exact (of_columnDefinition_eq_ok defined).1
  case numbered =>
    -- The key is a scalar, so it is among the columns that have been defined.
    intro entity mapping mapped
    obtain ⟨column, defined⟩ := columns mapped _ (key_mem_columnFields mapped)
    rw [← mapping_entity mapped]
    exact (of_columnDefinition_eq_ok defined).2 (beq_self_eq_true _)
  case related =>
    intro entity mapping mapped field member associated
    obtain ⟨relationships, declared⟩ := (declares (isPersistent_of_mapping mapped)).2
    exact relationship_of_declaredRelationships mapped declared member associated

end Definition

/-! ## Relationships -/

namespace Validated

variable {catalog : Catalog} {entity : String}

/-- A name resolves to a relationship exactly if it is that of a stored association. -/
theorem exists_relationship_iff (validated : catalog.Validated) {definition : Entity}
    (found : catalog.schema.entity? entity = some definition)
    (stored : definition.isTransient = false) (name : String) :
    (∃ relationship, catalog.relationship entity name = .ok relationship) ↔
      ∃ field ∈ definition.persistentFields,
        field.name = name ∧ field.type.association?.isSome = true := by
  obtain ⟨mapping, mapped⟩ :=
    validated.mapped (isPersistent_eq_true.mpr ⟨definition, found, stored⟩)
  have fields : mapping.fields = definition.persistentFields := by
    obtain ⟨described, isDescribed, resolved⟩ := mapping_eq_ok.mp mapped
    rw [found] at isDescribed
    cases isDescribed
    obtain ⟨-, -, -, key, -, rfl⟩ := Mapping.ofEntity_eq_ok.mp resolved
    rfl
  rw [← fields]
  constructor
  · rintro ⟨relationship, resolved⟩
    obtain ⟨owner, field, association, -, owned, isField, associated, -, -⟩ :=
      of_relationship_eq_ok resolved
    rw [mapped] at owned
    cases owned
    exact ⟨field, List.mem_of_find?_eq_some isField, by simpa using List.find?_some isField,
      by rw [associated]; rfl⟩
  · rintro ⟨field, member, rfl, associated⟩
    exact validated.related mapped field member associated

theorem exists_declaredRelationships (validated : catalog.Validated)
    (persistent : catalog.isPersistent entity = true) :
    ∃ relationships, catalog.declaredRelationships entity = .ok relationships := by
  obtain ⟨mapping, mapped⟩ := validated.mapped persistent
  refine exists_bind mapped (exists_mapM fun field member => ?_)
  obtain ⟨stored, associated⟩ := List.mem_filter.mp member
  exact validated.related mapped field stored associated

theorem exists_allManyToMany (validated : catalog.Validated)
    (distinct : catalog.schema.entityNames.Nodup) :
    ∃ relationships, catalog.allManyToMany = .ok relationships := by
  have declares : ∀ name ∈
      (catalog.schema.entities.filter Entity.isPersistent).map Entity.name,
      ∃ relationships, catalog.declaredRelationships name = .ok relationships := by
    -- Names are distinct, so that a stored definition is the one found by its name.
    intro name member
    obtain ⟨definition, isDefinition, rfl⟩ := List.mem_map.mp member
    obtain ⟨declared, persistent⟩ := List.mem_filter.mp isDefinition
    apply validated.exists_declaredRelationships
    rw [isPersistent, Schema.entity?, find?_of_nodup_names distinct declared]
    exact persistent
  obtain ⟨declared, each⟩ := exists_mapM declares
  exact exists_bind each ⟨_, rfl⟩

end Validated

end Persistence.Catalog
