import Persistence.Proofs.Catalog.RowColumns

/-!
# Foreign keys

Which column holds the links of a relationship without a join table. An association names one,
but where it is the declaring entity that holds the links, its field may be mapped to another.
-/

set_option autoImplicit false

namespace Persistence

open Schema

/-- The side whose rows hold the links, unless they are kept in a join table. -/
def Relationship.foreignKeySide? (relationship : Relationship) : Option Side :=
  match relationship.kind with
  | .oneToOne _ => some relationship.first
  | .oneToMany _ => some relationship.second
  | .manyToMany _ => none

theorem Relationship.foreignKeyColumn?_eq_none {relationship : Relationship} :
    relationship.foreignKeyColumn? = none ↔ relationship.cardinality = .manyToMany := by
  unfold foreignKeyColumn? cardinality
  cases relationship.kind <;> simp

theorem Schema.Field.columnName_of_oneToOne {field : Field} {association : Association}
    {column : String} (associated : field.type.association? = some association)
    (link : association.link = .oneToOne column) :
    field.columnName = field.column.getD column := by
  cases typed : field.type with
  | scalar scalar =>
      rw [typed] at associated
      cases associated
  | association declared =>
      rw [typed] at associated
      cases associated
      obtain ⟨name, target, place⟩ := association
      cases link
      unfold columnName
      rw [typed]
      cases field.column <;> rfl

namespace Catalog

variable {catalog : Catalog} {entity field : String} {relationship : Relationship}
  {statement : Statement} {side : Side} {column : String}

/-! ## Columns that hold links -/

/-- The statements that make links of a relationship without a join table. -/
inductive SetsForeignKey (catalog : Catalog) (relationship : Relationship) : Statement → Prop
  | one {owner related : Instance} {statement : Statement}
      (updated : catalog.updateOneToOne relationship owner related = .ok statement) :
      SetsForeignKey catalog relationship statement
  | many {owner : Instance} {relatedKeys : List Value} {statement : Statement}
      (updated : catalog.updateForeignKeys relationship owner relatedKeys =
        .ok (some statement)) :
      SetsForeignKey catalog relationship statement

/-- The column of the side's field, with which its table is defined, and which every statement
that makes a link sets and nothing else. -/
structure HoldsForeignKey (catalog : Catalog) (relationship : Relationship) (side : Side)
    (column : String) : Prop where
  stored : ∃ mapping found, catalog.mapping side.entity = .ok mapping ∧
    found ∈ mapping.columnFields ∧ found.name = side.field ∧ found.columnName = column
  defined : ∀ statement, catalog.entityTable side.entity = .ok statement →
    statement.table? = some side.table ∧ column ∈ statement.listedColumns
  set : ∀ statement, catalog.SetsForeignKey relationship statement →
    statement.table? = some side.table ∧ statement.listedColumns = [column]

/-- The field of the side that holds the links is stored in the column of the side. -/
theorem exists_foreignKeyField (resolved : catalog.relationship entity field = .ok relationship)
    (sided : relationship.foreignKeySide? = some side) :
    ∃ mapping found, catalog.mapping side.entity = .ok mapping ∧
      found ∈ mapping.columnFields ∧ found.name = side.field ∧
      found.columnName = side.column ∧ side.table = mapping.table := by
  obtain ⟨owner, own, association, target, owned, isField, associated, targeted, declared⟩ :=
    of_relationship_eq_ok resolved
  rcases Relationship.ofAssociation_cases declared with
    ⟨named, link, rfl⟩ | ⟨named, foreignKey, -, found, rfl⟩ |
    ⟨_, _, _, _, _, -, -, -, -, rfl⟩
  · cases sided
    have member := List.mem_filter.mpr ⟨List.mem_of_find?_eq_some isField,
      (Field.hasColumn_iff_oneToOne associated).mpr ⟨named, link⟩⟩
    exact ⟨owner, own, mapping_self owned, member, rfl, rfl, rfl⟩
  · cases sided
    obtain ⟨member, occupies⟩ := List.mem_filter.mp (List.mem_of_getLast? found)
    have isColumn : foreignKey.columnName = named := by simpa using occupies
    exact ⟨target, foreignKey, mapping_self targeted, member, rfl, isColumn, rfl⟩
  · cases sided

theorem assigned_of_updateOneToOne {owner related : Instance}
    (resolved : catalog.relationship entity field = .ok relationship)
    (updated : catalog.updateOneToOne relationship owner related = .ok statement) :
    relationship.foreignKeySide? = some relationship.first ∧
      statement.table? = some relationship.first.table ∧
      statement.listedColumns = [relationship.first.column] := by
  obtain ⟨mapping, mapped, isOn⟩ := isOn_updateOneToOne resolved updated
  obtain ⟨_, single, continuation⟩ := bind_eq_ok.mp updated
  obtain ⟨_, -, continuation⟩ := bind_eq_ok.mp continuation
  obtain ⟨_, -, continuation⟩ := bind_eq_ok.mp continuation
  obtain ⟨_, -, continuation⟩ := bind_eq_ok.mp continuation
  obtain ⟨relatedKey, -, continuation⟩ := bind_eq_ok.mp continuation
  obtain ⟨ownerKey, -, written⟩ := bind_eq_ok.mp continuation
  obtain ⟨named, kind⟩ := Relationship.cardinality_eq_oneToOne.mp
    (Relationship.requireCardinality_eq_ok.mp single)
  have sided : relationship.foreignKeySide? = some relationship.first := by
    rw [Relationship.foreignKeySide?, kind]
  obtain ⟨_, _, sameMapped, -, -, -, table⟩ := exists_foreignKeyField resolved sided
  rw [mapped] at sameMapped
  cases sameMapped
  refine ⟨sided, table ▸ isOn.table, ?_⟩
  cases written
  rfl

theorem assigned_of_updateForeignKeys {owner : Instance} {relatedKeys : List Value}
    (resolved : catalog.relationship entity field = .ok relationship)
    (updated : catalog.updateForeignKeys relationship owner relatedKeys = .ok (some statement)) :
    relationship.foreignKeySide? = some relationship.second ∧
      statement.table? = some relationship.second.table ∧
      statement.listedColumns = [relationship.second.column] := by
  obtain ⟨mapping, mapped, isOn⟩ := isOn_updateForeignKeys resolved updated
  obtain ⟨named, collected, continuation⟩ := bind_eq_ok.mp updated
  have kind := Relationship.collectionColumn_eq_ok.mp collected
  have sided : relationship.foreignKeySide? = some relationship.second := by
    rw [Relationship.foreignKeySide?, kind]
  obtain ⟨_, _, sameMapped, -, -, -, table⟩ := exists_foreignKeyField resolved sided
  rw [mapped] at sameMapped
  cases sameMapped
  refine ⟨sided, table ▸ isOn.table, ?_⟩
  rw [collectionColumn_eq_second resolved collected]
  obtain ⟨_, -, continuation⟩ := bind_eq_ok.mp continuation
  split at continuation
  · cases continuation
  · obtain ⟨many, -, continuation⟩ := bind_eq_ok.mp continuation
    obtain ⟨keyType, -, continuation⟩ := bind_eq_ok.mp continuation
    obtain ⟨ownerKey, -, written⟩ := bind_eq_ok.mp continuation
    cases written
    rfl

/-- The links of a relationship without a join table are in the column of a side, and in no
other column. -/
theorem holdsForeignKey_iff_eq (resolved : catalog.relationship entity field = .ok relationship)
    (sided : relationship.foreignKeySide? = some side) :
    catalog.HoldsForeignKey relationship side column ↔ column = side.column := by
  obtain ⟨mapping, found, mapped, member, named, occupied, table⟩ :=
    exists_foreignKeyField resolved sided
  constructor
  · intro holds
    obtain ⟨_, other, sameMapped, otherMember, otherNamed, otherOccupied⟩ := holds.stored
    rw [mapped] at sameMapped
    cases sameMapped
    have isFound := field?_of_mem mapped (List.mem_of_mem_filter member)
    have isOther := field?_of_mem mapped (List.mem_of_mem_filter otherMember)
    rw [otherNamed, ← named, isFound] at isOther
    cases isOther
    rw [← otherOccupied, occupied]
  · rintro rfl
    constructor
    case stored => exact ⟨mapping, found, mapped, member, named, occupied⟩
    case defined =>
      intro statement created
      obtain ⟨columns, rfl, names⟩ := columns_of_entityTable mapped created
      refine ⟨congrArg some table.symm, ?_⟩
      rw [Statement.listedColumns, names, ← occupied]
      exact Mapping.columnName_mem member
    case set =>
      intro statement sets
      cases sets with
      | one updated =>
          obtain ⟨ofFirst, assigned⟩ := assigned_of_updateOneToOne resolved updated
          rw [sided] at ofFirst
          cases ofFirst
          exact assigned
      | many updated =>
          obtain ⟨ofSecond, assigned⟩ := assigned_of_updateForeignKeys resolved updated
          rw [sided] at ofSecond
          cases ofSecond
          exact assigned

/-! ## The column that a relationship tells -/

/-- A relationship tells no column exactly if its links are kept in a join table. The column
that it tells holds its links exactly if the field of a one-to-one association is not mapped
to another one. -/
theorem foreignKeyColumn?_holds_iff
    (resolved : catalog.relationship entity field = .ok relationship) :
    (relationship.foreignKeyColumn? = none ↔ relationship.cardinality = .manyToMany) ∧
      ∀ column, relationship.foreignKeyColumn? = some column →
        ∃ side, relationship.foreignKeySide? = some side ∧
          (catalog.HoldsForeignKey relationship side column ↔
            (relationship.cardinality = .oneToOne →
              ∃ owner own, catalog.mapping entity = .ok owner ∧
                owner.field? field = some own ∧
                (own.column = none ∨ own.column = some column))) := by
  refine ⟨Relationship.foreignKeyColumn?_eq_none, fun column told => ?_⟩
  have equivalence (side : Side) (sided : relationship.foreignKeySide? = some side) :=
    @holdsForeignKey_iff_eq catalog entity field relationship side column resolved sided
  obtain ⟨owner, own, association, target, owned, isField, associated, -, declared⟩ :=
    of_relationship_eq_ok resolved
  rcases Relationship.ofAssociation_cases declared with
    ⟨named, link, rfl⟩ | ⟨named, foreignKey, -, -, rfl⟩ | ⟨_, _, _, _, _, -, -, -, -, rfl⟩
  · cases told
    refine ⟨_, rfl, (equivalence _ rfl).trans ?_⟩
    change column = own.columnName ↔ _
    rw [Field.columnName_of_oneToOne associated link]
    constructor
    · intro same _
      refine ⟨owner, own, owned, isField, ?_⟩
      cases mappedTo : own.column with
      | none => exact .inl rfl
      | some other =>
          rw [mappedTo, Option.getD_some] at same
          exact .inr (congrArg some same.symm)
    · intro unmapped
      obtain ⟨_, _, sameOwned, sameField, column⟩ := unmapped rfl
      rw [owned] at sameOwned
      cases sameOwned
      rw [isField] at sameField
      cases sameField
      rcases column with mappedTo | mappedTo <;> rw [mappedTo] <;> rfl
  · cases told
    refine ⟨_, rfl, (equivalence _ rfl).trans ⟨fun _ => nofun, fun _ => rfl⟩⟩
  · cases told

/-! ## A house under another column -/

/-- Persons with their house, in a column other than the one that the association names, and
houses with their tenants by that column. -/
def houseCatalog : Catalog where
  schema := ⟨[
    { name := "Person"
      fields := [
        { name := "id", type := .scalar .int64, isPrimaryKey := true },
        { name := "home"
          type := .association ⟨"home", "House", .oneToOne "home_id"⟩
          column := some "house_id" }] },
    { name := "House"
      fields := [
        { name := "id", type := .scalar .int64, isPrimaryKey := true },
        { name := "tenants"
          type := .association ⟨"tenants", "Person", .oneToMany "house_id"⟩ }] }]⟩

theorem foreignKeyColumn?_holds_iff_tenants :
    ∃ relationship, houseCatalog.relationship "House" "tenants" = .ok relationship ∧
      (relationship.foreignKeyColumn? = none ↔ relationship.cardinality = .manyToMany) ∧
      ∀ column, relationship.foreignKeyColumn? = some column →
        ∃ side, relationship.foreignKeySide? = some side ∧
          (houseCatalog.HoldsForeignKey relationship side column ↔
            (relationship.cardinality = .oneToOne →
              ∃ owner own, houseCatalog.mapping "House" = .ok owner ∧
                owner.field? "tenants" = some own ∧
                (own.column = none ∨ own.column = some column))) :=
  ⟨_, rfl, @foreignKeyColumn?_holds_iff houseCatalog "House" "tenants" _ rfl⟩

/-- The column that the home of a person tells is not in the table, and a move does not set it. -/
theorem not_holdsForeignKey_home :
    ∃ relationship, houseCatalog.relationship "Person" "home" = .ok relationship ∧
      relationship.foreignKeyColumn? = some "home_id" ∧
      relationship.foreignKeySide? = some relationship.first ∧
      (houseCatalog.entityTable "Person").map Statement.listedColumns =
        .ok ["id", "house_id"] ∧
      (houseCatalog.updateOneToOne relationship (Record.toInstance ⟨"Person", [("id", .int64 1)]⟩)
          (Record.toInstance ⟨"House", [("id", .int64 7)]⟩)).map Statement.listedColumns =
        .ok ["house_id"] ∧
      ¬ houseCatalog.HoldsForeignKey relationship relationship.first "home_id" := by
  refine ⟨_, rfl, rfl, rfl, rfl, rfl, fun holds => ?_⟩
  obtain ⟨-, listed⟩ := holds.defined _ rfl
  exact absurd listed (by decide)

end Catalog

end Persistence
