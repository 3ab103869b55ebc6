import Persistence.Proofs.Catalog.TableNames

/-!
# Columns of rows

The statements on the rows of an entity name no columns but those that its table is defined
with, whichever way they come to them: by a field, by a given column, by the key, by the field
that occupies the column of a collection, or by the side of a relationship.
-/

set_option autoImplicit false

namespace Persistence

open Schema

/-! ## Columns named -/

def Statement.table? : Statement → Option String
  | .createTable table _ _ | .dropTable table | .select _ table _ _ | .insert _ table _ _
  | .update table _ _ | .delete table _ => some table
  | .selectLinked .. => none

/-- The columns that a statement on the rows of one table names. A condition given as text names
none by itself. -/
def Statement.rowColumns : Statement → List String
  | .select _ _ conditions _ | .delete _ conditions => conditions.flatMap Condition.columns
  | .insert _ _ columns _ => columns
  | .update _ assignments condition => assignments.map Prod.fst ++ condition.columns
  | _ => []

structure Statement.IsOn (statement : Statement) (mapping : Mapping) : Prop where
  table : statement.table? = some mapping.table
  columns : statement.rowColumns ⊆ mapping.columnNames

def Side.IsColumnOf (side : Side) (mapping : Mapping) : Prop :=
  side.table = mapping.table ∧ side.column ∈ mapping.columnNames

theorem Mapping.columnName_mem {mapping : Mapping} {field : Field}
    (member : field ∈ mapping.columnFields) : field.columnName ∈ mapping.columnNames :=
  List.mem_map_of_mem member

/-- A foreign key stays in a column of its owner, that of a collection in one of its target. -/
theorem Relationship.columns_of_ofAssociation {owner target : Mapping} {field : Field}
    {association : Association} {relationship : Relationship} (owned : field ∈ owner.fields)
    (associated : field.type.association? = some association)
    (ownerKeyed : owner.key ∈ owner.columnFields) (targetKeyed : target.key ∈ target.columnFields)
    (declared : ofAssociation owner field association target = .ok relationship) :
    relationship.first.IsColumnOf owner ∧ relationship.second.IsColumnOf target := by
  rcases ofAssociation_cases declared with
    ⟨column, link, rfl⟩ | ⟨column, foreignKey, -, named, rfl⟩ |
    ⟨_, _, _, _, _, -, keySided, foreignSided, -, rfl⟩
  · have hasColumn := (Field.hasColumn_iff_oneToOne associated).mpr ⟨column, link⟩
    exact ⟨⟨rfl, Mapping.columnName_mem (List.mem_filter.mpr ⟨owned, hasColumn⟩)⟩, rfl,
      Mapping.columnName_mem targetKeyed⟩
  · obtain ⟨member, occupies⟩ := List.mem_filter.mp (List.mem_of_getLast? named)
    have isColumn : foreignKey.columnName = column := by simpa using occupies
    exact ⟨⟨rfl, Mapping.columnName_mem ownerKeyed⟩, rfl,
      isColumn ▸ Mapping.columnName_mem member⟩
  · obtain ⟨own, ownMember, -, rfl⟩ := of_sideColumn_eq_ok keySided
    obtain ⟨other, otherMember, -, rfl⟩ := of_sideColumn_eq_ok foreignSided
    exact ⟨⟨rfl, Mapping.columnName_mem ownMember⟩, rfl, Mapping.columnName_mem otherMember⟩

namespace Catalog

variable {catalog : Catalog} {entity field : String} {mapping : Mapping} {item : Instance}
  {relationship : Relationship} {statement : Statement}

theorem keyColumn_mem (mapped : catalog.mapping entity = .ok mapping) :
    mapping.keyColumn ∈ mapping.columnNames :=
  Mapping.columnName_mem (key_mem_columnFields mapped)

theorem columns_relationship (resolved : catalog.relationship entity field = .ok relationship) :
    ∀ side ∈ [relationship.first, relationship.second],
      ∃ mapping, catalog.mapping side.entity = .ok mapping ∧ side.IsColumnOf mapping := by
  obtain ⟨owner, found, association, target, owned, isField, associated, targeted, declared⟩ :=
    of_relationship_eq_ok resolved
  obtain ⟨first, second, -⟩ := Relationship.of_ofAssociation_eq_ok declared
  obtain ⟨firstColumn, secondColumn⟩ := Relationship.columns_of_ofAssociation
    (List.mem_of_find?_eq_some isField) associated (key_mem_columnFields owned)
    (key_mem_columnFields targeted) declared
  rw [List.forall_mem_cons, List.forall_mem_singleton, first, second, mapping_entity owned,
    mapping_entity targeted]
  exact ⟨⟨owner, owned, firstColumn⟩, target, targeted, secondColumn⟩

theorem collectionColumn_eq_second {column : String}
    (resolved : catalog.relationship entity field = .ok relationship)
    (collected : relationship.collectionColumn = .ok column) :
    relationship.second.column = column := by
  obtain ⟨owner, found, association, target, -, -, -, -, declared⟩ :=
    of_relationship_eq_ok resolved
  have kind := Relationship.collectionColumn_eq_ok.mp collected
  rcases Relationship.ofAssociation_cases declared with
    ⟨_, -, rfl⟩ | ⟨_, foreignKey, -, -, rfl⟩ | ⟨_, _, _, _, _, -, -, -, -, rfl⟩
  · cases kind
  · cases kind
    rfl
  · cases kind

/-! ## Statements on rows -/

theorem columns_condition {criterion : Criterion} {condition : Condition}
    (compiled : catalog.condition mapping criterion = .ok condition) :
    condition.columns ⊆ mapping.columnNames := by
  have named : ∀ {field column : String} {type : StorageType},
      catalog.criterionColumn mapping field = .ok (column, type) →
        [column] ⊆ mapping.columnNames := by
    intro field column type found
    obtain ⟨stored, isField, hasColumn, -, rfl⟩ := criterionColumn_eq_ok.mp found
    have member := List.mem_filter.mpr ⟨List.mem_of_find?_eq_some isField, hasColumn⟩
    exact List.cons_subset.mpr ⟨Mapping.columnName_mem member, List.nil_subset _⟩
  induction criterion generalizing condition with
  | compare field | between field | isIn field | like field | isNull field | isNotNull field =>
      obtain ⟨⟨column, type⟩, found, written⟩ := bind_eq_ok.mp compiled
      cases written
      exact named found
  | both left right leftIH rightIH | either left right leftIH rightIH =>
      obtain ⟨leftCondition, leftCompiled, continuation⟩ := bind_eq_ok.mp compiled
      obtain ⟨rightCondition, rightCompiled, written⟩ := bind_eq_ok.mp continuation
      cases written
      exact List.append_subset.mpr ⟨leftIH leftCompiled, rightIH rightCompiled⟩
  | verbatim fragment =>
      cases compiled
      exact List.nil_subset _

/-- The statements on the rows of an entity. Those that store links change the rows of the side
that has the foreign key. -/
inductive OnRows (catalog : Catalog) : String → Statement → Prop
  | select {query : Query} {statement : Statement}
      (selected : catalog.select query = .ok statement) :
      OnRows catalog query.entity statement
  | count {query : Query} {statement : Statement}
      (counted : catalog.count query = .ok statement) :
      OnRows catalog query.entity statement
  | insert {item : Instance} {statement : Statement}
      (inserted : catalog.insert item = .ok statement) :
      OnRows catalog item.entity statement
  | update {item : Instance} {statement : Statement}
      (updated : catalog.update item = .ok (some statement)) :
      OnRows catalog item.entity statement
  | delete {item : Instance} {statement : Statement}
      (deleted : catalog.delete item = .ok statement) :
      OnRows catalog item.entity statement
  | updateForeignKeys {entity field : String} {relationship : Relationship} {owner : Instance}
      {relatedKeys : List Value} {statement : Statement}
      (resolved : catalog.relationship entity field = .ok relationship)
      (updated : catalog.updateForeignKeys relationship owner relatedKeys =
        .ok (some statement)) :
      OnRows catalog relationship.second.entity statement
  | updateOneToOne {entity field : String} {relationship : Relationship}
      {owner related : Instance} {statement : Statement}
      (resolved : catalog.relationship entity field = .ok relationship)
      (updated : catalog.updateOneToOne relationship owner related = .ok statement) :
      OnRows catalog relationship.first.entity statement

theorem isOn_selection {projection : Projection} {query : Query}
    (selected : catalog.selection projection query = .ok statement) :
    ∃ mapping, catalog.mapping query.entity = .ok mapping ∧ statement.IsOn mapping := by
  obtain ⟨mapping, mapped, continuation⟩ := bind_eq_ok.mp selected
  obtain ⟨conditions, each, written⟩ := bind_eq_ok.mp continuation
  cases written
  refine ⟨mapping, mapped, rfl, fun column isColumn => ?_⟩
  obtain ⟨condition, member, named⟩ := List.mem_flatMap.mp isColumn
  obtain ⟨criterion, -, compiled⟩ := (mem_results_iff (mapM_eq_ok.mp each)).mp member
  exact columns_condition compiled named

theorem isOn_insert (mapped : catalog.mapping item.entity = .ok mapping)
    (inserted : catalog.insert item = .ok statement) : statement.IsOn mapping := by
  obtain ⟨fields, values, sublist, rfl⟩ := columns_of_insert mapped inserted
  exact ⟨rfl, (sublist.map Field.columnName).subset⟩

theorem isOn_update (mapped : catalog.mapping item.entity = .ok mapping)
    (updated : catalog.update item = .ok (some statement)) : statement.IsOn mapping := by
  obtain ⟨fields, assignments, key, sublist, assigned, rfl⟩ := columns_of_update mapped updated
  refine ⟨rfl, List.append_subset.mpr ⟨?_, ?_⟩⟩
  · rw [assigned]
    exact (sublist.map Field.columnName).subset
  · exact List.cons_subset.mpr ⟨keyColumn_mem mapped, List.nil_subset _⟩

theorem isOn_delete (deleted : catalog.delete item = .ok statement) :
    ∃ mapping, catalog.mapping item.entity = .ok mapping ∧ statement.IsOn mapping := by
  obtain ⟨mapping, mapped, continuation⟩ := bind_eq_ok.mp deleted
  obtain ⟨key, -, written⟩ := bind_eq_ok.mp continuation
  cases written
  exact ⟨mapping, mapped, rfl, List.cons_subset.mpr ⟨keyColumn_mem mapped, List.nil_subset _⟩⟩

/-- A statement that sets one column of rows that it finds by their keys. -/
theorem isOn_assignment {column : String} {value : Literal} {condition : Condition}
    (mapped : catalog.mapping entity = .ok mapping) (assigned : column ∈ mapping.columnNames)
    (byKey : condition.columns = [mapping.keyColumn]) :
    (Statement.update mapping.table [(column, value)] condition).IsOn mapping := by
  refine ⟨rfl, ?_⟩
  rw [Statement.rowColumns, byKey]
  exact List.cons_subset.mpr ⟨assigned,
    List.cons_subset.mpr ⟨keyColumn_mem mapped, List.nil_subset _⟩⟩

theorem isOn_updateForeignKeys {owner : Instance} {relatedKeys : List Value}
    (resolved : catalog.relationship entity field = .ok relationship)
    (updated : catalog.updateForeignKeys relationship owner relatedKeys = .ok (some statement)) :
    ∃ mapping, catalog.mapping relationship.second.entity = .ok mapping ∧
      statement.IsOn mapping := by
  obtain ⟨column, collected, continuation⟩ := bind_eq_ok.mp updated
  obtain ⟨_, -, continuation⟩ := bind_eq_ok.mp continuation
  split at continuation
  · cases continuation
  · obtain ⟨many, mapped, continuation⟩ := bind_eq_ok.mp continuation
    obtain ⟨keyType, -, continuation⟩ := bind_eq_ok.mp continuation
    obtain ⟨ownerKey, -, written⟩ := bind_eq_ok.mp continuation
    cases written
    obtain ⟨target, targetMapped, isColumn⟩ :=
      columns_relationship resolved relationship.second (by simp)
    rw [mapped] at targetMapped
    cases targetMapped
    have assigned := isColumn.2
    rw [collectionColumn_eq_second resolved collected] at assigned
    exact ⟨many, mapped, isOn_assignment mapped assigned rfl⟩

theorem isOn_updateOneToOne {owner related : Instance}
    (resolved : catalog.relationship entity field = .ok relationship)
    (updated : catalog.updateOneToOne relationship owner related = .ok statement) :
    ∃ mapping, catalog.mapping relationship.first.entity = .ok mapping ∧
      statement.IsOn mapping := by
  obtain ⟨_, -, continuation⟩ := bind_eq_ok.mp updated
  obtain ⟨_, first, continuation⟩ := bind_eq_ok.mp continuation
  obtain ⟨_, -, continuation⟩ := bind_eq_ok.mp continuation
  obtain ⟨mapping, mapped, continuation⟩ := bind_eq_ok.mp continuation
  obtain ⟨relatedKey, -, continuation⟩ := bind_eq_ok.mp continuation
  obtain ⟨ownerKey, -, written⟩ := bind_eq_ok.mp continuation
  cases written
  rw [← Relationship.requireFirst_eq_ok.mp first] at mapped
  obtain ⟨owning, ownerMapped, isColumn⟩ :=
    columns_relationship resolved relationship.first (by simp)
  rw [mapped] at ownerMapped
  cases ownerMapped
  exact ⟨mapping, mapped, isOn_assignment mapped isColumn.2 rfl⟩

theorem isOn_of_onRows (onRows : catalog.OnRows entity statement) :
    ∃ mapping, catalog.mapping entity = .ok mapping ∧ statement.IsOn mapping := by
  cases onRows with
  | select selected => exact isOn_selection selected
  | count counted => exact isOn_selection counted
  | insert inserted =>
      obtain ⟨mapping, mapped, -⟩ := bind_eq_ok.mp inserted
      exact ⟨mapping, mapped, isOn_insert mapped inserted⟩
  | update updated =>
      obtain ⟨mapping, mapped, -⟩ := bind_eq_ok.mp updated
      exact ⟨mapping, mapped, isOn_update mapped updated⟩
  | delete deleted => exact isOn_delete deleted
  | updateForeignKeys resolved updated => exact isOn_updateForeignKeys resolved updated
  | updateOneToOne resolved updated => exact isOn_updateOneToOne resolved updated

/-! ## Columns defined -/

variable {statements : List Statement}

/-- The statement that stands for the entity among those that define the tables of all
entities. -/
def Defines (catalog : Catalog) (statements : List Statement) (entity : String)
    (statement : Statement) : Prop :=
  (entity, statement) ∈
    (catalog.schema.entityNames.filter catalog.isPersistent).zip statements

theorem defines_of_createTables (mapped : catalog.mapping entity = .ok mapping)
    (created : catalog.createTables catalog.schema.entityNames = .ok statements) :
    ∃ columns, catalog.Defines statements entity (.createTable mapping.table columns none) ∧
      columns.map ColumnDefinition.name = mapping.columnNames := by
  obtain ⟨stored, tables, -, joinTables, named, tabled, -, -, rfl⟩ :=
    stages_of_createTables created
  have listed := storedNames_eq_ok named
  have persistent := isPersistent_of_mapping mapped
  have member : entity ∈ stored := by
    rw [listed]
    exact List.mem_filter.mpr ⟨mem_entityNames_of_isPersistent persistent, persistent⟩
  obtain ⟨table, isTable, defined⟩ := exists_result_at tabled member
  obtain ⟨columns, rfl, names⟩ := columns_of_entityTable mapped defined
  refine ⟨columns, ?_, names⟩
  -- Join tables come after the tables of all stored entities.
  have aligned : (stored ++ []).zip (tables ++ joinTables) = stored.zip tables ++ [] :=
    List.zip_append tabled.length_eq
  rw [List.append_nil, List.append_nil] at aligned
  rw [Defines, ← listed, aligned]
  exact isTable

/-- Once the tables of all entities are defined, every statement on the rows of an entity
addresses the table that is defined for the entity and names columns of its definition. Both
sides of every relationship are columns of the tables defined for their entities. -/
theorem columns_defined_of_createTables
    (created : catalog.createTables catalog.schema.entityNames = .ok statements) :
    (∀ entity statement, catalog.OnRows entity statement →
      ∃ table columns, catalog.Defines statements entity (.createTable table columns none) ∧
        statement.table? = some table ∧
        statement.rowColumns ⊆ columns.map ColumnDefinition.name) ∧
    ∀ entity field relationship, catalog.relationship entity field = .ok relationship →
      ∀ side ∈ [relationship.first, relationship.second],
        ∃ columns,
          catalog.Defines statements side.entity (.createTable side.table columns none) ∧
          side.column ∈ columns.map ColumnDefinition.name := by
  constructor
  · intro entity statement onRows
    obtain ⟨mapping, mapped, isOn⟩ := isOn_of_onRows onRows
    obtain ⟨columns, defines, names⟩ := defines_of_createTables mapped created
    exact ⟨mapping.table, columns, defines, isOn.table, names ▸ isOn.columns⟩
  · intro entity field relationship resolved side isSide
    obtain ⟨mapping, mapped, table, column⟩ := columns_relationship resolved side isSide
    obtain ⟨columns, defines, names⟩ := defines_of_createTables mapped created
    exact ⟨columns, table ▸ defines, names ▸ column⟩

theorem columns_defined_of_createTables_library :
    ∃ statements,
      libraryCatalog.createTables libraryCatalog.schema.entityNames = .ok statements ∧
      (∀ entity statement, libraryCatalog.OnRows entity statement →
        ∃ table columns,
          libraryCatalog.Defines statements entity (.createTable table columns none) ∧
          statement.table? = some table ∧
          statement.rowColumns ⊆ columns.map ColumnDefinition.name) ∧
      ∀ entity field relationship,
        libraryCatalog.relationship entity field = .ok relationship →
          ∀ side ∈ [relationship.first, relationship.second],
            ∃ columns,
              libraryCatalog.Defines statements side.entity
                (.createTable side.table columns none) ∧
              side.column ∈ columns.map ColumnDefinition.name :=
  ⟨_, rfl, columns_defined_of_createTables rfl⟩

end Catalog

end Persistence
