import Persistence.Proofs.Catalog.ColumnNames
import Persistence.Proofs.Catalog.Compilation
import Persistence.Proofs.Catalog.JoinTable

/-!
# Table names

Which tables are defined and removed. Both take the tables of the stored entities that are
listed, and then the join tables that these name, each once, so that removal undoes definition
statement by statement. Join tables are kept apart from each other, but neither the tables of
entities from each other nor join tables from them.
-/

set_option autoImplicit false

namespace Persistence

open Schema

/-! ## Tables declared -/

namespace Schema

def Association.joinTable? (association : Association) : Option String :=
  match association.link with
  | .manyToMany table _ _ => some table
  | _ => none

def Field.joinTable? (field : Field) : Option String :=
  field.type.association?.bind Association.joinTable?

def Entity.joinTables (definition : Entity) : List String :=
  definition.persistentFields.filterMap Field.joinTable?

def storedEntities (schema : Schema) : List Entity :=
  schema.entities.filter Entity.isPersistent

end Schema

theorem nodup_eraseDups : ∀ names : List String, names.eraseDups.Nodup
  | [] => List.nodup_nil
  | name :: rest => by
      have shorter := List.length_filter_le (fun other => !other == name) rest
      rw [List.eraseDups_cons, List.nodup_cons]
      refine ⟨?_, nodup_eraseDups _⟩
      rw [List.mem_eraseDups, List.mem_filter]
      simp
termination_by names => names.length
decreasing_by exact Nat.lt_succ_of_le shorter

namespace Catalog

/-- The definitions of the stored ones among the entities, in the order of the list. -/
def storedAmong (catalog : Catalog) (entities : List String) : List Entity :=
  (entities.filter catalog.isPersistent).filterMap catalog.schema.entity?

/-- The join tables that the stored ones among the entities name, in the order in which each is
named first. -/
def joinTablesAmong (catalog : Catalog) (entities : List String) : List String :=
  ((catalog.storedAmong entities).flatMap Entity.joinTables).eraseDups

def tablesAmong (catalog : Catalog) (entities : List String) : List String :=
  (catalog.storedAmong entities).map Entity.tableName ++ catalog.joinTablesAmong entities

variable {catalog : Catalog} {entity : String} {entities names : List String}

theorem length_storedAmong (catalog : Catalog) (entities : List String) :
    (catalog.storedAmong entities).length = (entities.filter catalog.isPersistent).length := by
  unfold storedAmong
  induction entities with
  | nil => rfl
  | cons name rest ih =>
      cases persistent : catalog.isPersistent name with
      | false => rw [List.filter_cons_of_neg (by simp [persistent]), ih]
      | true =>
          obtain ⟨definition, found, -⟩ := isPersistent_eq_true.mp persistent
          rw [List.filter_cons_of_pos persistent, List.filterMap_cons_some found,
            List.length_cons, ih, List.length_cons]

theorem storedAmong_entityNames (distinct : catalog.schema.entityNames.Nodup) :
    catalog.storedAmong catalog.schema.entityNames = catalog.schema.storedEntities := by
  have found : ∀ definition ∈ catalog.schema.entities,
      catalog.schema.entity? definition.name = some definition :=
    fun definition member => find?_of_nodup_names distinct member
  have persistent : catalog.schema.entities.filter (catalog.isPersistent ∘ Entity.name) =
      catalog.schema.storedEntities := by
    refine List.filter_congr fun definition member => ?_
    simp [isPersistent, found definition member]
  rw [storedAmong, entityNames, List.filter_map, persistent, List.filterMap_map]
  rw [List.filterMap_congr (g := some), List.filterMap_some]
  intro definition member
  exact found definition (List.mem_of_mem_filter member)

/-! ## Join tables declared -/

theorem joinTables_distinctByJoinTable (seen : List String) (relationships : List Relationship) :
    (distinctByJoinTable seen relationships).filterMap Relationship.joinTable? =
      ((relationships.filterMap Relationship.joinTable?).filter (· ∉ seen)).eraseDups := by
  induction relationships generalizing seen with
  | nil => rfl
  | cons first rest ih =>
      cases tabled : first.joinTable? with
      | none => simp only [distinctByJoinTable, tabled, List.filterMap_cons_none, ih]
      | some table =>
          rw [List.filterMap_cons_some tabled]
          by_cases known : table ∈ seen
          · simp [distinctByJoinTable, tabled, known, ih]
          · -- The table is passed over from here on, like those seen before.
            have others : (rest.filterMap Relationship.joinTable?).filter (· ∉ table :: seen) =
                ((rest.filterMap Relationship.joinTable?).filter (· ∉ seen)).filter
                  (fun other => !other == table) := by
              rw [List.filter_filter]
              refine List.filter_congr fun other _ => ?_
              by_cases same : other = table <;> simp [same]
            rw [List.filter_cons_of_pos (by simpa using known), List.eraseDups_cons, ← others, ← ih]
            simp [distinctByJoinTable, tabled, known]

theorem joinTable?_of_ofAssociation {owner target : Mapping} {field : Field}
    {association : Association} {relationship : Relationship}
    (declared : Relationship.ofAssociation owner field association target = .ok relationship) :
    relationship.joinTable? = association.joinTable? := by
  unfold Association.joinTable?
  rcases Relationship.ofAssociation_cases declared with
    ⟨column, link, rfl⟩ | ⟨column, foreignKey, link, -, rfl⟩ |
    ⟨table, _, _, _, _, link, -, -, -, rfl⟩
  · rw [link]
    rfl
  · rw [link]
    rfl
  · rw [link]
    rfl

theorem joinTables_of_declaredRelationships {relationships : List Relationship}
    (declared : catalog.declaredRelationships entity = .ok relationships) :
    ∃ definition, catalog.schema.entity? entity = some definition ∧
      relationships.filterMap Relationship.joinTable? = definition.joinTables := by
  obtain ⟨mapping, mapped, each⟩ := bind_eq_ok.mp declared
  have tables : relationships.map Relationship.joinTable? =
      (mapping.fields.filter fun field => field.type.association?.isSome).map
        Field.joinTable? := by
    refine map_results (mapM_eq_ok.mp each) fun field member relationship resolved => ?_
    obtain ⟨owner, found, association, target, owned, isField, associated, -, built⟩ :=
      of_relationship_eq_ok resolved
    rw [mapped] at owned
    cases owned
    rw [field?_of_mem mapped (List.mem_of_mem_filter member)] at isField
    cases isField
    rw [joinTable?_of_ofAssociation built, Field.joinTable?, associated, Option.bind_some]
  obtain ⟨definition, found, described⟩ := mapping_eq_ok.mp mapped
  obtain ⟨-, -, -, key, -, rfl⟩ := Mapping.ofEntity_eq_ok.mp described
  refine ⟨definition, found, ?_⟩
  calc relationships.filterMap Relationship.joinTable?
      = (relationships.map Relationship.joinTable?).filterMap id := by
        rw [List.filterMap_map, Function.id_comp]
    _ = (definition.persistentFields.filter fun field =>
          field.type.association?.isSome).filterMap Field.joinTable? := by
        rw [tables, List.filterMap_map, Function.id_comp]
    _ = definition.joinTables := by
        rw [List.filterMap_filter, Entity.joinTables]
        refine List.filterMap_congr fun field _ => ?_
        cases associated : field.type.association? <;> simp [Field.joinTable?, associated]

theorem joinTables_flatten {groups : List (List Relationship)}
    (declares : List.Forall₂ (fun name group => catalog.declaredRelationships name = .ok group)
      names groups) :
    groups.flatten.filterMap Relationship.joinTable? =
      (names.filterMap catalog.schema.entity?).flatMap Entity.joinTables := by
  induction declares with
  | nil => rfl
  | cons declared _ ih =>
      obtain ⟨definition, found, own⟩ := joinTables_of_declaredRelationships declared
      rw [List.flatten_cons, List.filterMap_append, own, ih, List.filterMap_cons_some found,
        List.flatMap_cons]

theorem joinTables_of_manyToManyAmong {relationships : List Relationship}
    (gathered : catalog.manyToManyAmong names = .ok relationships) :
    relationships.filterMap Relationship.joinTable? =
      ((names.filterMap catalog.schema.entity?).flatMap Entity.joinTables).eraseDups := by
  obtain ⟨groups, declares, written⟩ := bind_eq_ok.mp gathered
  cases written
  rw [joinTables_distinctByJoinTable, joinTables_flatten (mapM_eq_ok.mp declares),
    List.filter_eq_self.mpr]
  intro table _
  simp

end Catalog

/-! ## Tables defined and removed -/

def Statement.createdTable? : Statement → Option String
  | .createTable table _ _ => some table
  | _ => none

theorem Statement.filterMap_createdTable? {tables : List String} {statements : List Statement}
    (creates : List.Forall₂ (fun table statement => statement.createdTable? = some table)
      tables statements) :
    statements.filterMap createdTable? = tables := by
  induction creates with
  | nil => rfl
  | cons first _ ih => rw [List.filterMap_cons_some first, ih]

namespace Catalog

variable {catalog : Catalog} {entity : String} {entities names : List String}
  {statements : List Statement}

theorem storedNames_eq_ok (named : catalog.storedNames entities = .ok names) :
    names = entities.filter catalog.isPersistent := by
  obtain ⟨groups, each, written⟩ := bind_eq_ok.mp named
  cases written
  have checked := mapM_eq_ok.mp each
  clear each named
  induction checked with
  | nil => rfl
  | @cons name group names groups own _ ih =>
      rw [List.flatten_cons, ih]
      cases persistent : catalog.isPersistent name with
      | true =>
          rw [(storedName_eq_ok persistent own).1, List.filter_cons_of_pos persistent]
          rfl
      | false =>
          rw [List.filter_cons_of_neg (by simp [persistent])]
          unfold storedName at own
          split at own
          · cases own
          · rw [if_neg (by simp [persistent])] at own
            cases own
            rfl

theorem createdTable?_of_entityTable {statement : Statement}
    (defined : catalog.entityTable entity = .ok statement) :
    ∃ definition, catalog.schema.entity? entity = some definition ∧
      statement.createdTable? = some definition.tableName ∧
      catalog.dropEntityTable entity = .ok (.dropTable definition.tableName) := by
  obtain ⟨mapping, mapped, -⟩ := bind_eq_ok.mp defined
  obtain ⟨columns, rfl, -⟩ := columns_of_entityTable mapped defined
  have dropped : catalog.dropEntityTable entity = .ok (.dropTable mapping.table) :=
    bind_eq_ok.mpr ⟨mapping, mapped, rfl⟩
  obtain ⟨definition, found, described⟩ := mapping_eq_ok.mp mapped
  obtain ⟨-, -, -, key, -, rfl⟩ := Mapping.ofEntity_eq_ok.mp described
  exact ⟨definition, found, rfl, dropped⟩

/-- The tables of entities are defined, and can be removed, in the order of the entities. -/
theorem entityTables_defined
    (defined : List.Forall₂ (fun name statement => catalog.entityTable name = .ok statement)
      names statements) :
    List.Forall₂ (fun definition statement =>
        statement.createdTable? = some definition.tableName)
      (names.filterMap catalog.schema.entity?) statements ∧
    names.mapM catalog.dropEntityTable =
      .ok ((names.filterMap catalog.schema.entity?).map fun definition =>
        .dropTable definition.tableName) := by
  rw [mapM_eq_ok]
  induction defined with
  | nil => exact ⟨.nil, .nil⟩
  | cons first _ ih =>
      obtain ⟨definition, found, creates, drops⟩ := createdTable?_of_entityTable first
      rw [List.filterMap_cons_some found]
      exact ⟨.cons creates ih.1, .cons drops ih.2⟩

theorem joinTables_defined {relationships : List Relationship}
    (defined : List.Forall₂ (fun relationship statement =>
      catalog.joinTableDefinition relationship = .ok statement) relationships statements) :
    List.Forall₂ (fun table statement => statement.createdTable? = some table)
      (relationships.filterMap Relationship.joinTable?) statements := by
  induction defined with
  | nil => exact .nil
  | cons first _ ih =>
      obtain ⟨table, columns, jointKey, tabled, rfl, -⟩ := of_joinTableDefinition_eq_ok first
      rw [List.filterMap_cons_some tabled]
      exact .cons rfl ih

/-- Definition and removal go through the same tables in the same order. -/
theorem tables_of_createTables (created : catalog.createTables entities = .ok statements) :
    List.Forall₂ (fun table statement => statement.createdTable? = some table)
      (catalog.tablesAmong entities) statements ∧
    catalog.dropTables entities = .ok ((catalog.tablesAmong entities).map .dropTable) := by
  obtain ⟨stored, tables, relationships, joinTables, named, tabled, gathered, joined, rfl⟩ :=
    stages_of_createTables created
  have listed := storedNames_eq_ok named
  have joins := joinTables_of_manyToManyAmong gathered
  obtain ⟨creates, drops⟩ := entityTables_defined tabled
  have joinCreates := joinTables_defined joined
  rw [joins] at joinCreates
  subst listed
  constructor
  · exact List.rel_append (List.forall₂_map_left_iff.mpr creates) joinCreates
  · refine bind_eq_ok.mpr ⟨_, named, bind_eq_ok.mpr ⟨_, drops, ?_⟩⟩
    refine bind_eq_ok.mpr ⟨_, gathered, ?_⟩
    rw [joins, tablesAmong, List.map_append, List.map_map]
    rfl

/-- What is defined can be removed: each statement removes the table that the one in its place
defines. There is one for each listed entity that is stored, and then one for each join table
that one of these names, where it is first named. -/
theorem dropTables_of_createTables (created : catalog.createTables entities = .ok statements) :
    ∃ removals, catalog.dropTables entities = .ok removals ∧
      removals.length = statements.length ∧
      List.Forall₂ (fun creation removal => ∃ table,
        creation.createdTable? = some table ∧ removal = .dropTable table) statements removals ∧
      statements.length =
        (entities.filter catalog.isPersistent).length +
          (catalog.joinTablesAmong entities).length ∧
      (catalog.joinTablesAmong entities).Nodup ∧
      removals = ((catalog.storedAmong entities).map Entity.tableName ++
        catalog.joinTablesAmong entities).map .dropTable := by
  obtain ⟨creates, dropped⟩ := tables_of_createTables created
  have sameLength := creates.length_eq
  refine ⟨_, dropped, ?_, ?_, ?_, nodup_eraseDups _, rfl⟩
  · rw [List.length_map, sameLength]
  · rw [List.forall₂_map_right_iff]
    exact creates.flip.imp fun creation table creates => ⟨table, creates, rfl⟩
  · rw [← sameLength, tablesAmong, List.length_append, List.length_map, length_storedAmong]

/-- Two entities are listed repeatedly, with one that is kept out of storage among them. -/
theorem dropTables_of_createTables_library :
    ∃ statements removals,
      libraryCatalog.createTables ["Prize", "Author", "Shelf", "Author"] = .ok statements ∧
      libraryCatalog.dropTables ["Prize", "Author", "Shelf", "Author"] = .ok removals ∧
      removals.length = statements.length ∧
      List.Forall₂ (fun creation removal => ∃ table,
        creation.createdTable? = some table ∧ removal = .dropTable table) statements removals ∧
      statements.length = 4 ∧
      removals = ["prize", "author", "author", "award"].map .dropTable := by
  obtain ⟨removals, dropped, sameLength, same, length, -, written⟩ :=
    @dropTables_of_createTables libraryCatalog ["Prize", "Author", "Shelf", "Author"] _ rfl
  exact ⟨_, removals, rfl, dropped, sameLength, same, length, written⟩

/-! ## Tables apart -/

end Catalog

/-- The stored entities have tables of their own, and none of these is a join table. -/
structure Schema.KeepsTablesApart (schema : Schema) : Prop where
  entities : (schema.storedEntities.map Entity.tableName).Nodup
  joinTables : ∀ owner ∈ schema.storedEntities, ∀ table ∈ owner.joinTables,
    ∀ other ∈ schema.storedEntities, other.tableName ≠ table

/-- The definitions that are passed over because their table is there when they are reached. -/
def Statement.passedOver : List String → List Statement → List Statement
  | _, [] => []
  | existing, statement :: rest =>
      match statement.createdTable? with
      | none => passedOver existing rest
      | some table =>
          if table ∈ existing then statement :: passedOver existing rest
          else passedOver (table :: existing) rest

theorem Statement.passedOver_eq_nil {existing : List String} {statements : List Statement} :
    passedOver existing statements = [] ↔
      (statements.filterMap createdTable?).Nodup ∧
        ∀ table ∈ statements.filterMap createdTable?, table ∉ existing := by
  induction statements generalizing existing with
  | nil => simp [passedOver]
  | cons statement rest ih =>
      cases created : statement.createdTable? with
      | none => rw [List.filterMap_cons_none created, ← ih, passedOver, created]
      | some table =>
          rw [List.filterMap_cons_some created, List.nodup_cons, List.forall_mem_cons]
          by_cases present : table ∈ existing
          · simp [passedOver, created, present]
          · simp only [passedOver, created, present, if_false, ih, List.mem_cons, not_or]
            constructor
            · rintro ⟨distinct, fresh⟩
              refine ⟨⟨fun member => (fresh table member).1 rfl, distinct⟩, not_false, ?_⟩
              exact fun other member => (fresh other member).2
            · rintro ⟨⟨unrepeated, distinct⟩, -, fresh⟩
              refine ⟨distinct, fun other member => ⟨?_, fresh other member⟩⟩
              rintro rfl
              exact unrepeated member

namespace Catalog

variable {catalog : Catalog} {statements : List Statement}

theorem nodup_tablesAmong_iff (distinct : catalog.schema.entityNames.Nodup) :
    (catalog.tablesAmong catalog.schema.entityNames).Nodup ↔
      catalog.schema.KeepsTablesApart := by
  rw [tablesAmong, joinTablesAmong, storedAmong_entityNames distinct, List.nodup_append]
  constructor
  · rintro ⟨entities, -, apart⟩
    constructor
    case entities => exact entities
    case joinTables =>
      intro owner isOwner table named other isOther
      refine apart _ (List.mem_map_of_mem isOther) table ?_
      exact List.mem_eraseDups.mpr (List.mem_flatMap.mpr ⟨owner, isOwner, named⟩)
  · rintro ⟨entities, joinTables⟩
    refine ⟨entities, nodup_eraseDups _, fun table isTable joinTable isJoinTable => ?_⟩
    obtain ⟨other, isOther, rfl⟩ := List.mem_map.mp isTable
    obtain ⟨owner, isOwner, named⟩ := List.mem_flatMap.mp (List.mem_eraseDups.mp isJoinTable)
    exact joinTables owner isOwner joinTable named other isOther

theorem createdTables_of_createTables {entities : List String}
    (created : catalog.createTables entities = .ok statements) :
    statements.filterMap Statement.createdTable? = catalog.tablesAmong entities :=
  Statement.filterMap_createdTable? (tables_of_createTables created).1

/-- The tables that are defined for all entities of a schema with distinct names are distinct
exactly if the schema keeps the tables apart, and exactly then no definition is passed over. -/
theorem createdTables_nodup_iff (distinct : catalog.schema.entityNames.Nodup)
    (created : catalog.createTables catalog.schema.entityNames = .ok statements) :
    ((statements.filterMap Statement.createdTable?).Nodup ↔
        catalog.schema.KeepsTablesApart) ∧
      (Statement.passedOver [] statements = [] ↔ catalog.schema.KeepsTablesApart) := by
  have apart : (statements.filterMap Statement.createdTable?).Nodup ↔
      catalog.schema.KeepsTablesApart := by
    rw [createdTables_of_createTables created, nodup_tablesAmong_iff distinct]
  refine ⟨apart, ?_⟩
  rw [Statement.passedOver_eq_nil, ← apart, and_iff_left]
  intro table _
  exact List.not_mem_nil

theorem createdTables_nodup_iff_library :
    ∃ statements, libraryCatalog.schema.entityNames.Nodup ∧
      libraryCatalog.createTables libraryCatalog.schema.entityNames = .ok statements ∧
      ((statements.filterMap Statement.createdTable?).Nodup ↔
        libraryCatalog.schema.KeepsTablesApart) ∧
      (Statement.passedOver [] statements = [] ↔ libraryCatalog.schema.KeepsTablesApart) := by
  have distinct : libraryCatalog.schema.entityNames.Nodup := by decide
  exact ⟨_, distinct, rfl, createdTables_nodup_iff distinct rfl⟩

/-! ## Two entities on one table -/

/-- Tags by number, and labels by code that are mapped to the table of the tags. -/
def tagCatalog : Catalog where
  schema := ⟨[
    { name := "Tag"
      fields := [
        { name := "id", type := .scalar .int64, isPrimaryKey := true },
        { name := "text", type := .scalar .string }] },
    { name := "Label"
      table := some "tag"
      fields := [{ name := "code", type := .scalar .string, isPrimaryKey := true }] }]⟩

/-- Both definitions are of the same table, so that the second one is passed over. -/
theorem not_createdTables_nodup_tags :
    ∃ first second, tagCatalog.schema.entityNames.Nodup ∧
      tagCatalog.createTables tagCatalog.schema.entityNames = .ok [first, second] ∧
      [first, second].filterMap Statement.createdTable? = ["tag", "tag"] ∧
      Statement.passedOver [] [first, second] = [second] ∧
      ¬ ([first, second].filterMap Statement.createdTable?).Nodup :=
  ⟨.createTable "tag" [⟨"id", "INTEGER", [.primaryKey]⟩, ⟨"text", "TEXT", []⟩] none,
    .createTable "tag" [⟨"code", "TEXT", [.primaryKey]⟩] none, by decide, rfl, rfl, rfl, by decide⟩

end Catalog

end Persistence
