import Mathlib.Data.List.Perm.Subperm
import Persistence.Proofs.Catalog.Validation
import Persistence.Sql.Linking

/-!
# Join tables

Which columns a join table has. It is defined once, by the first relationship declared over it,
while the statements on links name the columns of the relationship that they are for. These
are the same unless two declarations over one table differ in a field.
-/

set_option autoImplicit false

namespace Persistence

/-! ## Distinct join tables -/

namespace Catalog

theorem distinctByJoinTable_filter (seen : List String) (relationships : List Relationship) :
    distinctByJoinTable seen (relationships.filter fun relationship =>
        relationship.joinTable?.isSome) =
      distinctByJoinTable seen relationships := by
  induction relationships generalizing seen with
  | nil => rfl
  | cons first rest ih =>
      cases tabled : first.joinTable? with
      | none => simp [tabled, distinctByJoinTable, ih]
      | some table => simp [tabled, distinctByJoinTable, ih]

/-- A relationship is kept exactly if it is the first over a join table not seen before. -/
theorem mem_distinctByJoinTable {seen : List String} {relationships : List Relationship}
    {relationship : Relationship} :
    relationship ∈ distinctByJoinTable seen relationships ↔
      ∃ table, table ∉ seen ∧
        relationships.find? (fun other => other.joinTable? == some table) =
          some relationship := by
  induction relationships generalizing seen with
  | nil => simp [distinctByJoinTable]
  | cons first rest ih =>
      cases tabled : first.joinTable? with
      | none => simp [distinctByJoinTable, tabled, ih]
      | some own =>
          by_cases known : own ∈ seen
          · have passed : distinctByJoinTable seen (first :: rest) =
                distinctByJoinTable seen rest := by
              simp [distinctByJoinTable, tabled, known]
            rw [passed, ih]
            refine exists_congr fun table => and_congr_right fun unseen => ?_
            have different : own ≠ table := by
              rintro rfl
              exact unseen known
            simp [tabled, different]
          · have kept : distinctByJoinTable seen (first :: rest) =
                first :: distinctByJoinTable (own :: seen) rest := by
              simp [distinctByJoinTable, tabled, known]
            rw [kept, List.mem_cons, ih]
            constructor
            · rintro (rfl | ⟨table, unseen, found⟩)
              · exact ⟨own, known, by simp [tabled]⟩
              · simp only [List.mem_cons, not_or] at unseen
                have different : own ≠ table := fun same => unseen.1 same.symm
                exact ⟨table, unseen.2, by simp [tabled, different, found]⟩
            · rintro ⟨table, unseen, found⟩
              by_cases same : own = table
              · subst same
                simp only [List.find?_cons, tabled, BEq.rfl, Option.some.injEq] at found
                exact .inl found.symm
              · have others : (some own == some table) = false := by simp [same]
                simp only [List.find?_cons, tabled, others] at found
                refine .inr ⟨table, ?_, found⟩
                simp only [List.mem_cons, not_or]
                exact ⟨fun other => same other.symm, unseen⟩

theorem find?_of_mem_distinctByJoinTable {seen : List String}
    {relationships : List Relationship} {relationship : Relationship} {table : String}
    (kept : relationship ∈ distinctByJoinTable seen relationships)
    (tabled : relationship.joinTable? = some table) :
    relationships.find? (fun other => other.joinTable? == some table) = some relationship := by
  obtain ⟨own, -, found⟩ := mem_distinctByJoinTable.mp kept
  have ownTabled : relationship.joinTable? = some own := by simpa using List.find?_some found
  rw [tabled, Option.some.injEq] at ownTabled
  rw [ownTabled, found]

end Catalog

/-! ## Statements on links -/

namespace Catalog

variable {catalog : Catalog} {relationship : Relationship} {item : Instance}
  {statement : Statement}

theorem selectLinked_eq_ok {key : Value} {queried : String} :
    selectLinked relationship key queried = .ok statement ↔
      ∃ table, relationship.joinTable? = some table ∧
        (relationship.first.entity = queried ∧
            statement = .selectLinked true (linkedTable relationship.first)
              (linkedTable relationship.second) table key.literal ∨
          relationship.first.entity ≠ queried ∧ relationship.second.entity = queried ∧
            statement = .selectLinked false (linkedTable relationship.second)
              (linkedTable relationship.first) table key.literal) := by
  refine bind_eq_ok.trans (exists_congr fun table => and_congr Relationship.joinTable_iff ?_)
  by_cases first : relationship.first.entity = queried
  · simp [first, eq_comm]
  · by_cases second : relationship.second.entity = queried
    · simp [first, second, eq_comm]
    · simp [first, second]

theorem sideLiteral_of_storageType {side : Side} {type : StorageType}
    (typed : catalog.storageType side.entity side.field = .ok type) (value : Value) :
    catalog.sideLiteral side value = .ok (value.literalAs type) :=
  bind_eq_ok.mpr ⟨type, typed, rfl⟩

/-- Statements on the links of an instance begin with the table, its side and its value. -/
theorem ownLinks_bind_eq_ok {α : Type} {next : String → Side → Side → Literal → Except Error α}
    {result : α} :
    (do
        let table ← relationship.joinTable
        let (own, other) ← relationship.sides item.entity
        let owner ← catalog.sideLiteral own (item.value own.field)
        next table own other owner) = .ok result ↔
      ∃ table own other owner, relationship.joinTable? = some table ∧
        relationship.sides item.entity = .ok (own, other) ∧
        catalog.sideLiteral own (item.value own.field) = .ok owner ∧
        next table own other owner = .ok result := by
  constructor
  · intro succeeded
    obtain ⟨table, tabled, continuation⟩ := bind_eq_ok.mp succeeded
    obtain ⟨⟨own, other⟩, sided, continuation⟩ := bind_eq_ok.mp continuation
    obtain ⟨owner, owned, finished⟩ := bind_eq_ok.mp continuation
    exact ⟨table, own, other, owner, Relationship.joinTable_iff.mp tabled, sided, owned, finished⟩
  · rintro ⟨table, own, other, owner, tabled, sided, owned, finished⟩
    refine bind_eq_ok.mpr ⟨table, Relationship.joinTable_iff.mpr tabled, ?_⟩
    refine bind_eq_ok.mpr ⟨(own, other), sided, ?_⟩
    exact bind_eq_ok.mpr ⟨owner, owned, finished⟩

theorem deleteLinks_eq_ok :
    catalog.deleteLinks relationship item = .ok statement ↔
      ∃ table own other owner, relationship.joinTable? = some table ∧
        relationship.sides item.entity = .ok (own, other) ∧
        catalog.sideLiteral own (item.value own.field) = .ok owner ∧
        statement = .delete table [.compare own.joinColumn .equal owner] := by
  refine (@ownLinks_bind_eq_ok catalog relationship item Statement
    (fun table own _ owner => .ok (.delete table [.compare own.joinColumn .equal owner]))
    statement).trans ?_
  simp only [Except.ok.injEq, @eq_comm _ _ statement]

theorem deleteStaleLinks_eq_ok {kept : List Value} :
    catalog.deleteStaleLinks relationship item kept = .ok statement ↔
      ∃ table own other owner, relationship.joinTable? = some table ∧
        relationship.sides item.entity = .ok (own, other) ∧
        catalog.sideLiteral own (item.value own.field) = .ok owner ∧
        statement = .delete table (.compare own.joinColumn .equal owner ::
          match kept with
          | [] => []
          | _ => [.isNotIn other.joinColumn (kept.map Value.literal)]) := by
  refine (@ownLinks_bind_eq_ok catalog relationship item Statement
    (fun table own other owner => .ok (.delete table (.compare own.joinColumn .equal owner ::
      match kept with
      | [] => []
      | _ => [.isNotIn other.joinColumn (kept.map Value.literal)])))
    statement).trans ?_
  simp only [Except.ok.injEq, @eq_comm _ _ statement]

theorem insertLink_eq_ok {key : Value} :
    catalog.insertLink relationship item key = .ok statement ↔
      ∃ table own other owner, relationship.joinTable? = some table ∧
        relationship.sides item.entity = .ok (own, other) ∧
        catalog.sideLiteral own (item.value own.field) = .ok owner ∧
        ∃ related, catalog.sideLiteral other key = .ok related ∧
          statement = .insert catalog.dialect.insertOrIgnore table
            [own.joinColumn, other.joinColumn] [owner, related] := by
  refine (@ownLinks_bind_eq_ok catalog relationship item Statement
    (fun table own other owner => do
      let related ← catalog.sideLiteral other key
      .ok (.insert catalog.dialect.insertOrIgnore table [own.joinColumn, other.joinColumn]
        [owner, related]))
    statement).trans ?_
  simp only [bind_eq_ok, Except.ok.injEq, @eq_comm _ _ statement]

end Catalog

/-! ## Columns named -/

def Relationship.joinColumns (relationship : Relationship) : List String :=
  [relationship.first.joinColumn, relationship.second.joinColumn]

def Condition.columns : Condition → List String
  | .compare column _ _ | .between column _ _ | .isIn column _ | .isNotIn column _
  | .like column _ | .isNull column | .isNotNull column => [column]
  | .both left right | .either left right => left.columns ++ right.columns
  | .verbatim _ => []

/-- The columns of a join table that a statement on its links names. -/
def Statement.joinColumns : Statement → List String
  | .selectLinked _ selected anchor _ _ => [selected.joinColumn, anchor.joinColumn]
  | .insert _ _ columns _ => columns
  | .delete _ conditions => conditions.flatMap Condition.columns
  | _ => []

namespace Catalog

variable {catalog : Catalog} {relationship : Relationship} {statement : Statement}

/-- The statements that are made for the links of a relationship. -/
inductive OnLinks (catalog : Catalog) (relationship : Relationship) : Statement → Prop
  | select {key : Value} {queried : String} {statement : Statement}
      (selected : selectLinked relationship key queried = .ok statement) :
      OnLinks catalog relationship statement
  | deleteStale {item : Instance} {kept : List Value} {statement : Statement}
      (removed : catalog.deleteStaleLinks relationship item kept = .ok statement) :
      OnLinks catalog relationship statement
  | delete {item : Instance} {statement : Statement}
      (removed : catalog.deleteLinks relationship item = .ok statement) :
      OnLinks catalog relationship statement
  | insert {item : Instance} {key : Value} {statement : Statement}
      (inserted : catalog.insertLink relationship item key = .ok statement) :
      OnLinks catalog relationship statement

theorem joinColumn_mem_of_sides {entity : String} {own other : Side}
    (sided : relationship.sides entity = .ok (own, other)) :
    own.joinColumn ∈ relationship.joinColumns ∧ other.joinColumn ∈ relationship.joinColumns := by
  unfold Relationship.sides at sided
  unfold Relationship.joinColumns
  split at sided
  · cases sided
    simp
  · split at sided
    · cases sided
      simp
    · cases sided

theorem joinColumns_subset (onLinks : catalog.OnLinks relationship statement) :
    statement.joinColumns ⊆ relationship.joinColumns := by
  cases onLinks with
  | select selected =>
      obtain ⟨table, -, ⟨-, rfl⟩ | ⟨-, -, rfl⟩⟩ := selectLinked_eq_ok.mp selected
      · exact fun column member => member
      · exact fun column member => List.mem_reverse.mpr member
  | @deleteStale item kept statement removed =>
      obtain ⟨table, own, other, owner, -, sided, -, rfl⟩ := deleteStaleLinks_eq_ok.mp removed
      obtain ⟨ownColumn, otherColumn⟩ := joinColumn_mem_of_sides sided
      cases kept with
      | nil => exact List.cons_subset.mpr ⟨ownColumn, List.nil_subset _⟩
      | cons first rest =>
          exact List.cons_subset.mpr ⟨ownColumn,
            List.cons_subset.mpr ⟨otherColumn, List.nil_subset _⟩⟩
  | delete removed =>
      obtain ⟨table, own, other, owner, -, sided, -, rfl⟩ := deleteLinks_eq_ok.mp removed
      exact List.cons_subset.mpr ⟨(joinColumn_mem_of_sides sided).1, List.nil_subset _⟩
  | insert inserted =>
      obtain ⟨table, own, other, owner, -, sided, -, related, -, rfl⟩ :=
        insertLink_eq_ok.mp inserted
      obtain ⟨ownColumn, otherColumn⟩ := joinColumn_mem_of_sides sided
      exact List.cons_subset.mpr ⟨ownColumn,
        List.cons_subset.mpr ⟨otherColumn, List.nil_subset _⟩⟩

/-- The selection for the first side names both columns. It is made whatever the fields of the
relationship are, as it writes no value of theirs. -/
theorem exists_onLinks (catalog : Catalog) {table : String}
    (tabled : relationship.joinTable? = some table) :
    ∃ statement, catalog.OnLinks relationship statement ∧
      statement.joinColumns = relationship.joinColumns := by
  have selected : selectLinked relationship .null relationship.first.entity =
      .ok (.selectLinked true (linkedTable relationship.first) (linkedTable relationship.second)
        table Value.null.literal) :=
    selectLinked_eq_ok.mpr ⟨table, tabled, .inl ⟨rfl, rfl⟩⟩
  exact ⟨_, .select selected, rfl⟩

/-! ## Tables defined -/

/-- The relationships that the stored ones among the entities declare, in order. -/
def declaredAmong (catalog : Catalog) (entities : List String) :
    Except Error (List Relationship) := do
  let stored ← catalog.storedNames entities
  let declared ← stored.mapM catalog.declaredRelationships
  .ok declared.flatten

theorem mem_declaredRelationships_iff {entity : String} {relationships : List Relationship}
    (declared : catalog.declaredRelationships entity = .ok relationships) :
    relationship ∈ relationships ↔
      ∃ field, catalog.relationship entity field = .ok relationship := by
  obtain ⟨mapping, mapped, each⟩ := bind_eq_ok.mp declared
  rw [mem_results_iff (mapM_eq_ok.mp each)]
  constructor
  · rintro ⟨found, -, resolved⟩
    exact ⟨found.name, resolved⟩
  · rintro ⟨field, resolved⟩
    obtain ⟨owner, found, association, target, owned, isField, associated, -⟩ :=
      of_relationship_eq_ok resolved
    rw [owned] at mapped
    cases mapped
    have named : found.name = field := by simpa using List.find?_some isField
    refine ⟨found, ?_, named ▸ resolved⟩
    exact List.mem_filter.mpr ⟨List.mem_of_find?_eq_some isField, by simp [associated]⟩

theorem mem_declaredAmong {entities : List String} {entity field : String}
    {declared : List Relationship} (declares : catalog.declaredAmong entities = .ok declared)
    (listed : entity ∈ entities)
    (resolved : catalog.relationship entity field = .ok relationship) :
    relationship ∈ declared := by
  obtain ⟨stored, named, continuation⟩ := bind_eq_ok.mp declares
  obtain ⟨groups, each, flattened⟩ := bind_eq_ok.mp continuation
  cases flattened
  obtain ⟨owner, mapped, -⟩ := bind_eq_ok.mp resolved
  have isStored := (of_storedNames_eq_ok named listed (isPersistent_of_mapping mapped)).1
  obtain ⟨group, isGroup, ofEntity⟩ := exists_result (mapM_eq_ok.mp each) isStored
  have inGroup := (mem_declaredRelationships_iff ofEntity).mpr ⟨field, resolved⟩
  exact List.mem_flatten_of_mem isGroup inGroup

theorem name_of_joinColumnDefinition {side : Side} {column : ColumnDefinition}
    (defined : catalog.joinColumnDefinition side = .ok column) : column.name = side.joinColumn := by
  obtain ⟨type, -, written⟩ := bind_eq_ok.mp defined
  cases written
  rfl

theorem of_joinTableDefinition_eq_ok
    (defined : catalog.joinTableDefinition relationship = .ok statement) :
    ∃ table columns jointKey, relationship.joinTable? = some table ∧
      statement = .createTable table columns (some jointKey) ∧
      columns.map ColumnDefinition.name = relationship.joinColumns := by
  obtain ⟨table, tabled, continuation⟩ := bind_eq_ok.mp defined
  obtain ⟨first, firstDefined, continuation⟩ := bind_eq_ok.mp continuation
  obtain ⟨second, secondDefined, written⟩ := bind_eq_ok.mp continuation
  cases written
  refine ⟨table, _, _, Relationship.joinTable_iff.mp tabled, rfl, ?_⟩
  rw [List.map_cons, List.map_singleton, name_of_joinColumnDefinition firstDefined,
    name_of_joinColumnDefinition secondDefined]
  rfl

theorem jointKey_of_entityTable {entity : String}
    (defined : catalog.entityTable entity = .ok statement) :
    ∃ table columns, statement = .createTable table columns none := by
  obtain ⟨mapping, -, continuation⟩ := bind_eq_ok.mp defined
  obtain ⟨columns, -, written⟩ := bind_eq_ok.mp continuation
  cases written
  exact ⟨_, _, rfl⟩

/-- The tables of entities are defined before the join tables, each of which is defined by the
first relationship declared over it. -/
theorem of_createTables_eq_ok {entities : List String} {statements : List Statement}
    (created : catalog.createTables entities = .ok statements) :
    ∃ declared tables joinTables, catalog.declaredAmong entities = .ok declared ∧
      statements = tables ++ joinTables ∧
      (∀ table columns jointKey, .createTable table columns (some jointKey) ∉ tables) ∧
      List.Forall₂ (fun relationship statement =>
          catalog.joinTableDefinition relationship = .ok statement)
        (distinctByJoinTable [] declared) joinTables := by
  obtain ⟨stored, tables, distinct, joinTables, named, tabled, among, defined, rfl⟩ :=
    stages_of_createTables created
  obtain ⟨groups, grouped, distinctly⟩ := bind_eq_ok.mp among
  cases distinctly
  refine ⟨groups.flatten, tables, joinTables, ?_, rfl, ?_, defined⟩
  · exact bind_eq_ok.mpr ⟨stored, named, bind_eq_ok.mpr ⟨groups, grouped, rfl⟩⟩
  · intro table columns jointKey member
    obtain ⟨entity, -, ofEntity⟩ := (mem_results_iff tabled).mp member
    obtain ⟨_, _, shape⟩ := jointKey_of_entityTable ofEntity
    cases shape

/-- Among the statements there is one definition of each declared join table, by the first
relationship declared over it. -/
theorem exists_joinTable {entities : List String} {statements : List Statement}
    (created : catalog.createTables entities = .ok statements) :
    ∃ declared, catalog.declaredAmong entities = .ok declared ∧
      ∀ relationship ∈ declared, ∀ table, relationship.joinTable? = some table →
        ∃ first columns jointKey,
          declared.find? (fun other => other.joinTable? == some table) = some first ∧
          .createTable table columns (some jointKey) ∈ statements ∧
          (∀ others key, .createTable table others (some key) ∈ statements → others = columns) ∧
          columns.map ColumnDefinition.name = first.joinColumns := by
  obtain ⟨declared, tables, joinTables, declares, rfl, entityTables, defined⟩ :=
    of_createTables_eq_ok created
  refine ⟨declared, declares, fun relationship member table tabled => ?_⟩
  obtain ⟨first, found⟩ := Option.isSome_iff_exists.mp
    (List.find?_isSome (p := fun other : Relationship => other.joinTable? == some table) |>.mpr
      ⟨relationship, member, by simp [tabled]⟩)
  have firstTabled : first.joinTable? = some table := by simpa using List.find?_some found
  have kept := mem_distinctByJoinTable.mpr ⟨table, List.not_mem_nil, found⟩
  obtain ⟨statement, isStatement, definition⟩ := exists_result defined kept
  obtain ⟨_, columns, jointKey, joined, rfl, names⟩ := of_joinTableDefinition_eq_ok definition
  rw [firstTabled, Option.some.injEq] at joined
  subst joined
  refine ⟨first, columns, jointKey, found, List.mem_append_right _ isStatement, ?_, names⟩
  intro others key isOther
  have among := (List.mem_append.mp isOther).resolve_left (entityTables table others key)
  obtain ⟨second, secondKept, secondDefinition⟩ := (mem_results_iff defined).mp among
  obtain ⟨_, _, _, secondJoined, shape, -⟩ := of_joinTableDefinition_eq_ok secondDefinition
  cases shape
  -- Both are the first one over the table.
  have secondFound := find?_of_mem_distinctByJoinTable secondKept secondJoined
  rw [found, Option.some.injEq] at secondFound
  rw [secondFound, secondDefinition] at definition
  cases definition
  rfl

/-- The table of a relationship among those created has the join columns of the first
relationship declared over it. They are the columns that the statements on the links of the
relationship name exactly if they are, in either order, those of the relationship itself. -/
theorem joinColumns_created_iff {entities : List String} {statements : List Statement}
    {entity field table : String} (created : catalog.createTables entities = .ok statements)
    (listed : entity ∈ entities)
    (resolved : catalog.relationship entity field = .ok relationship)
    (tabled : relationship.joinTable? = some table) :
    ∃ declared first columns jointKey, catalog.declaredAmong entities = .ok declared ∧
      declared.find? (fun other => other.joinTable? == some table) = some first ∧
      .createTable table columns (some jointKey) ∈ statements ∧
      (∀ others key, .createTable table others (some key) ∈ statements → others = columns) ∧
      columns.map ColumnDefinition.name = first.joinColumns ∧
      ((∀ statement, catalog.OnLinks relationship statement →
          statement.joinColumns ⊆ columns.map ColumnDefinition.name) ↔
        (columns.map ColumnDefinition.name).Perm relationship.joinColumns) := by
  obtain ⟨declared, declares, defines⟩ := exists_joinTable created
  have member := mem_declaredAmong declares listed resolved
  obtain ⟨first, columns, jointKey, found, isStatement, only, names⟩ :=
    defines relationship member table tabled
  refine ⟨declared, first, columns, jointKey, declares, found, isStatement, only, names, ?_⟩
  rw [names]
  constructor
  · intro named
    obtain ⟨statement, onLinks, joinColumns⟩ := exists_onLinks catalog tabled
    have subset := named statement onLinks
    rw [joinColumns] at subset
    have linked := Relationship.cardinality_eq_manyToMany.mpr
      ⟨table, Relationship.joinTable?_eq_some.mp tabled⟩
    have distinct : relationship.joinColumns.Nodup := by
      simpa [Relationship.joinColumns] using joinColumn_ne resolved linked
    -- Two distinct columns that are among two are these.
    exact ((distinct.subperm subset).perm_of_length_le (Nat.le_refl 2)).symm
  · intro permuted statement onLinks
    exact List.Subset.trans (joinColumns_subset onLinks) permuted.symm.subset

/-! ## Members by name -/

/-- Persons and clubs, each declaring whom they are linked with over one table: the persons by
the numbers of both, the clubs by their own name. -/
def clubCatalog : Catalog where
  schema := ⟨[
    { name := "Person"
      fields := [
        { name := "id", type := .scalar .int64, isPrimaryKey := true },
        { name := "clubs"
          type := .association ⟨"clubs", "Club", .manyToMany "membership" "id" "id"⟩ }] },
    { name := "Club"
      fields := [
        { name := "id", type := .scalar .int64, isPrimaryKey := true },
        { name := "name", type := .scalar .string },
        { name := "members"
          type := .association ⟨"members", "Person", .manyToMany "membership" "name" "id"⟩ }] }]⟩

theorem joinColumns_created_iff_clubs :
    ∃ statements relationship, clubCatalog.createTables ["Person", "Club"] = .ok statements ∧
      "Person" ∈ ["Person", "Club"] ∧
      clubCatalog.relationship "Person" "clubs" = .ok relationship ∧
      relationship.joinTable? = some "membership" ∧
      ∃ declared first columns jointKey,
        clubCatalog.declaredAmong ["Person", "Club"] = .ok declared ∧
        declared.find? (fun other => other.joinTable? == some "membership") = some first ∧
        .createTable "membership" columns (some jointKey) ∈ statements ∧
        (∀ others key,
          .createTable "membership" others (some key) ∈ statements → others = columns) ∧
        columns.map ColumnDefinition.name = first.joinColumns ∧
        ((∀ statement, clubCatalog.OnLinks relationship statement →
            statement.joinColumns ⊆ columns.map ColumnDefinition.name) ↔
          (columns.map ColumnDefinition.name).Perm relationship.joinColumns) := by
  have created : ∃ statements,
      clubCatalog.createTables ["Person", "Club"] = .ok statements := ⟨_, rfl⟩
  obtain ⟨statements, created⟩ := created
  have listed : "Person" ∈ ["Person", "Club"] := List.mem_cons_self
  exact ⟨statements, _, created, listed, rfl, rfl,
    @joinColumns_created_iff clubCatalog _ _ _ "Person" "clubs" _ created listed rfl rfl⟩

def chessClub : Record := ⟨"Club", [("id", .int64 3), ("name", .string "chess")]⟩

/-- The members of a club are linked by its name, for which the table has no column. -/
theorem not_joinColumns_created_members :
    ∃ statements relationship columns jointKey statement,
      clubCatalog.createTables ["Person", "Club"] = .ok statements ∧
      clubCatalog.relationship "Club" "members" = .ok relationship ∧
      .createTable "membership" columns (some jointKey) ∈ statements ∧
      clubCatalog.insertLink relationship chessClub.toInstance (.int64 1) = .ok statement ∧
      columns.map ColumnDefinition.name = ["person_id", "club_id"] ∧
      statement.joinColumns = ["club_name", "person_id"] :=
  ⟨_, _, [⟨"person_id", "INTEGER", []⟩, ⟨"club_id", "INTEGER", []⟩], ("person_id", "club_id"), _,
    rfl, rfl, by decide +kernel, rfl, rfl, rfl⟩

end Catalog

end Persistence
