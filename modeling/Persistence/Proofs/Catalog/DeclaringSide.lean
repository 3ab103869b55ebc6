import Persistence.Proofs.Catalog.JoinTable

/-!
# The declaring side

A many-to-many relationship of two entities can be declared on either of them. The statements on
its links are the same from both declarations; only the selection of linked rows names the two
tables in the other order.
-/

set_option autoImplicit false

namespace Persistence

/-- The other relationship is declared from the other side: it keeps its links in the same place
and has the sides exchanged. The names may differ. -/
structure Relationship.Mirrors (relationship mirror : Relationship) : Prop where
  kind : mirror.kind = relationship.kind
  first : mirror.first = relationship.second
  second : mirror.second = relationship.first

namespace Relationship.Mirrors

variable {relationship mirror : Relationship}

theorem joinTable? (mirrors : relationship.Mirrors mirror) :
    mirror.joinTable? = relationship.joinTable? := by
  rw [Relationship.joinTable?, Relationship.joinTable?, mirrors.kind]

/-- An instance has the same side of its own, as it can be on one side only. -/
theorem sides_eq_ok (mirrors : relationship.Mirrors mirror)
    (different : relationship.first.entity ≠ relationship.second.entity) {entity : String}
    {sides : Side × Side} :
    relationship.sides entity = .ok sides ↔ mirror.sides entity = .ok sides := by
  rw [Relationship.sides, Relationship.sides, mirrors.first, mirrors.second]
  by_cases onFirst : relationship.first.entity = entity
  · have notSecond : relationship.second.entity ≠ entity := by
      rintro rfl
      exact different onFirst
    simp [onFirst, notSecond]
  · by_cases onSecond : relationship.second.entity = entity <;> simp [onFirst, onSecond]

end Relationship.Mirrors

/-- The texts differ in nothing but the order in which they name the tables of the two sides, each
under the same alias in both. -/
def Relationship.DifferInTableOrder (relationship : Relationship) (statement other : Statement) :
    Prop :=
  ∃ firstAlias secondAlias rest, [firstAlias, secondAlias].Perm [" x", " y"] ∧
    statement.render = "SELECT x.* FROM " ++ (relationship.first.table ++ firstAlias ++ ", " ++
      (relationship.second.table ++ secondAlias)) ++ rest ∧
    other.render = "SELECT x.* FROM " ++ (relationship.second.table ++ secondAlias ++ ", " ++
      (relationship.first.table ++ firstAlias)) ++ rest

namespace Catalog

variable {catalog : Catalog} {relationship mirror : Relationship} {table : String}

/-! ## Declared relationships -/

/-- The side is a field of its entity that has a column, under the names of the entity's mapping. -/
def IsFieldSide (catalog : Catalog) (side : Side) : Prop :=
  ∃ mapping, catalog.mapping side.entity = .ok mapping ∧
    ∃ found ∈ mapping.columnFields, side = .ofMapping mapping found.name found.columnName

theorem isFieldSide_of_relationship {entity field : String}
    (resolved : catalog.relationship entity field = .ok relationship)
    (tabled : relationship.joinTable? = some table) :
    catalog.IsFieldSide relationship.first ∧ catalog.IsFieldSide relationship.second := by
  obtain ⟨owner, _, association, target, owned, -, -, targeted, declared⟩ :=
    of_relationship_eq_ok resolved
  have kind := Relationship.joinTable?_eq_some.mp tabled
  rcases Relationship.ofAssociation_cases declared with
    ⟨_, -, rfl⟩ | ⟨_, _, -, -, rfl⟩ | ⟨_, _, _, _, _, -, keySided, foreignSided, -, rfl⟩
  · cases kind
  · cases kind
  · obtain ⟨own, ownMember, rfl, rfl⟩ := Relationship.of_sideColumn_eq_ok keySided
    obtain ⟨other, otherMember, rfl, rfl⟩ := Relationship.of_sideColumn_eq_ok foreignSided
    exact ⟨⟨owner, mapping_self owned, own, ownMember, rfl⟩,
      target, mapping_self targeted, other, otherMember, rfl⟩

/-- A side of this kind is told by its entity and its field. -/
theorem IsFieldSide.eq_of_field {left right : Side} (leftSide : catalog.IsFieldSide left)
    (rightSide : catalog.IsFieldSide right) (entity : left.entity = right.entity)
    (field : left.field = right.field) : left = right := by
  obtain ⟨mapping, mapped, own, ownMember, leftIs⟩ := leftSide
  obtain ⟨_, otherMapped, other, otherMember, rightIs⟩ := rightSide
  rw [← entity, mapped, Except.ok.injEq] at otherMapped
  subst otherMapped
  have sameName : own.name = other.name := by
    rw [leftIs, rightIs] at field
    exact field
  have found := field?_of_mem mapped (List.mem_of_mem_filter ownMember)
  rw [sameName, field?_of_mem mapped (List.mem_of_mem_filter otherMember),
    Option.some.injEq] at found
  rw [leftIs, rightIs, found]

/-- Two declarations over one join table mirror each other if the entities and the fields of the
first one are exchanged in the second one. -/
theorem mirrors_of_relationship {entity field otherEntity otherField : String}
    (resolved : catalog.relationship entity field = .ok relationship)
    (otherResolved : catalog.relationship otherEntity otherField = .ok mirror)
    (tabled : relationship.joinTable? = some table) (otherTabled : mirror.joinTable? = some table)
    (entities : mirror.first.entity = relationship.second.entity ∧
      mirror.second.entity = relationship.first.entity)
    (fields : mirror.first.field = relationship.second.field ∧
      mirror.second.field = relationship.first.field) :
    relationship.Mirrors mirror := by
  obtain ⟨first, second⟩ := isFieldSide_of_relationship resolved tabled
  obtain ⟨mirrorFirst, mirrorSecond⟩ := isFieldSide_of_relationship otherResolved otherTabled
  constructor
  · rw [Relationship.joinTable?_eq_some.mp tabled, Relationship.joinTable?_eq_some.mp otherTabled]
  · exact mirrorFirst.eq_of_field second entities.1 fields.1
  · exact mirrorSecond.eq_of_field first entities.2 fields.2

/-! ## Statements -/

theorem deleteLinks_mirror (mirrors : relationship.Mirrors mirror)
    (different : relationship.first.entity ≠ relationship.second.entity) (item : Instance) :
    FailTogether Eq (catalog.deleteLinks relationship item) (catalog.deleteLinks mirror item) :=
  .of_eq_ok_iff fun statement => by
    simp only [deleteLinks_eq_ok, mirrors.joinTable?, mirrors.sides_eq_ok different]

theorem deleteStaleLinks_mirror (mirrors : relationship.Mirrors mirror)
    (different : relationship.first.entity ≠ relationship.second.entity) (item : Instance)
    (kept : List Value) :
    FailTogether Eq (catalog.deleteStaleLinks relationship item kept)
      (catalog.deleteStaleLinks mirror item kept) :=
  .of_eq_ok_iff fun statement => by
    simp only [deleteStaleLinks_eq_ok, mirrors.joinTable?, mirrors.sides_eq_ok different]

theorem insertLink_mirror (mirrors : relationship.Mirrors mirror)
    (different : relationship.first.entity ≠ relationship.second.entity) (item : Instance)
    (relatedKey : Value) :
    FailTogether Eq (catalog.insertLink relationship item relatedKey)
      (catalog.insertLink mirror item relatedKey) :=
  .of_eq_ok_iff fun statement => by
    simp only [insertLink_eq_ok, mirrors.joinTable?, mirrors.sides_eq_ok different]

theorem exists_render_selectLinked (selected anchor : LinkedTable) (joinTable : String)
    (key : Literal) :
    ∃ rest, ∀ selectedFirst,
      (Statement.selectLinked selectedFirst selected anchor joinTable key).render =
        "SELECT x.* FROM " ++ Statement.renderLinkedTables selectedFirst selected anchor ++
          rest := by
  refine ⟨", " ++ joinTable ++ " z WHERE z." ++ selected.joinColumn ++ " = x." ++
    selected.column ++ " AND z." ++ anchor.joinColumn ++ " = y." ++ anchor.column ++
    " AND y." ++ anchor.column ++ " = " ++ key.render, fun selectedFirst => ?_⟩
  change "SELECT x.* FROM " ++ Statement.renderLinkedTables selectedFirst selected anchor ++
    ", " ++ joinTable ++ " z WHERE z." ++ selected.joinColumn ++ " = x." ++ selected.column ++
    " AND z." ++ anchor.joinColumn ++ " = y." ++ anchor.column ++ " AND y." ++
    anchor.column ++ " = " ++ key.render = _
  simp only [String.append_assoc]

/-- The rows of a side are selected by the same text but for the order of the tables. -/
theorem selectLinked_mirror (mirrors : relationship.Mirrors mirror)
    (tabled : relationship.joinTable? = some table)
    (different : relationship.first.entity ≠ relationship.second.entity) (key : Value)
    (queried : String) :
    FailTogether relationship.DifferInTableOrder (selectLinked relationship key queried)
      (selectLinked mirror key queried) := by
  have otherTabled : mirror.joinTable? = some table := mirrors.joinTable?.trans tabled
  by_cases onFirst : relationship.first.entity = queried
  · have apart : mirror.first.entity ≠ queried := by
      rw [mirrors.first, ← onFirst]
      exact different.symm
    have own : selectLinked relationship key queried = .ok _ :=
      selectLinked_eq_ok.mpr ⟨table, tabled, .inl ⟨onFirst, rfl⟩⟩
    have other : selectLinked mirror key queried = .ok _ :=
      selectLinked_eq_ok.mpr
        ⟨table, otherTabled, .inr ⟨apart, (congrArg Side.entity mirrors.second).trans onFirst, rfl⟩⟩
    rw [own, other, mirrors.first, mirrors.second]
    obtain ⟨rest, rendered⟩ := exists_render_selectLinked (linkedTable relationship.first)
      (linkedTable relationship.second) table key.literal
    exact .succeeded ⟨" x", " y", rest, .refl _, rendered true, rendered false⟩
  · by_cases onSecond : relationship.second.entity = queried
    · have own : selectLinked relationship key queried = .ok _ :=
        selectLinked_eq_ok.mpr ⟨table, tabled, .inr ⟨onFirst, onSecond, rfl⟩⟩
      have other : selectLinked mirror key queried = .ok _ :=
        selectLinked_eq_ok.mpr
          ⟨table, otherTabled, .inl ⟨(congrArg Side.entity mirrors.first).trans onSecond, rfl⟩⟩
      rw [own, other, mirrors.first, mirrors.second]
      obtain ⟨rest, rendered⟩ := exists_render_selectLinked (linkedTable relationship.second)
        (linkedTable relationship.first) table key.literal
      exact .succeeded ⟨" y", " x", rest, .swap _ _ _, rendered false, rendered true⟩
    · refine .of_ne_ok (fun statement selected => ?_) fun statement selected => ?_
      · obtain ⟨-, -, ⟨isFirst, -⟩ | ⟨-, isSecond, -⟩⟩ := selectLinked_eq_ok.mp selected
        · exact onFirst isFirst
        · exact onSecond isSecond
      · obtain ⟨-, -, ⟨isFirst, -⟩ | ⟨-, isSecond, -⟩⟩ := selectLinked_eq_ok.mp selected
        · exact onSecond (mirrors.first ▸ isFirst)
        · exact onFirst (mirrors.second ▸ isSecond)

/-- It makes no difference on which of two entities a many-to-many relationship is declared. From
either declaration the links of an instance are removed, pruned and added by the same statements,
linked rows are selected by texts that differ in the order of the two tables only, and where one
declaration gives no statement the other gives none. -/
theorem statements_mirror (linked : relationship.kind = .manyToMany table)
    (different : relationship.first.entity ≠ relationship.second.entity)
    (mirrors : relationship.Mirrors mirror) :
    (∀ item, FailTogether Eq (catalog.deleteLinks relationship item)
        (catalog.deleteLinks mirror item)) ∧
      (∀ item kept, FailTogether Eq (catalog.deleteStaleLinks relationship item kept)
        (catalog.deleteStaleLinks mirror item kept)) ∧
      (∀ item relatedKey, FailTogether Eq (catalog.insertLink relationship item relatedKey)
        (catalog.insertLink mirror item relatedKey)) ∧
      ∀ key queried, FailTogether relationship.DifferInTableOrder
        (selectLinked relationship key queried) (selectLinked mirror key queried) := by
  have tabled := Relationship.joinTable?_eq_some.mpr linked
  exact ⟨deleteLinks_mirror mirrors different, deleteStaleLinks_mirror mirrors different,
    insertLink_mirror mirrors different, selectLinked_mirror mirrors tabled different⟩

/-! ## Enrolment -/

/-- Students and courses, each declaring the courses of students from its side. -/
def courseCatalog : Catalog where
  schema := ⟨[
    { name := "Student"
      fields := [
        { name := "id", type := .scalar .int64, isPrimaryKey := true },
        { name := "courses"
          type := .association ⟨"courses", "Course", .manyToMany "enrolment" "id" "code"⟩ }] },
    { name := "Course"
      fields := [
        { name := "code", type := .scalar .string, isPrimaryKey := true },
        { name := "students"
          type := .association ⟨"students", "Student", .manyToMany "enrolment" "code" "id"⟩ }] }]⟩

theorem statements_mirror_enrolment :
    ∃ relationship mirror, courseCatalog.relationship "Student" "courses" = .ok relationship ∧
      courseCatalog.relationship "Course" "students" = .ok mirror ∧
      relationship.kind = .manyToMany "enrolment" ∧
      relationship.first.entity ≠ relationship.second.entity ∧ relationship.Mirrors mirror ∧
      (∀ item, FailTogether Eq (courseCatalog.deleteLinks relationship item)
        (courseCatalog.deleteLinks mirror item)) ∧
      (∀ item kept, FailTogether Eq (courseCatalog.deleteStaleLinks relationship item kept)
        (courseCatalog.deleteStaleLinks mirror item kept)) ∧
      (∀ item relatedKey, FailTogether Eq (courseCatalog.insertLink relationship item relatedKey)
        (courseCatalog.insertLink mirror item relatedKey)) ∧
      ∀ key queried, FailTogether relationship.DifferInTableOrder
        (selectLinked relationship key queried) (selectLinked mirror key queried) := by
  have mirrors := @mirrors_of_relationship courseCatalog _ _ "enrolment" "Student" "courses"
    "Course" "students" rfl rfl rfl rfl ⟨rfl, rfl⟩ ⟨rfl, rfl⟩
  have different : "Student" ≠ "Course" := by decide
  exact ⟨_, _, rfl, rfl, rfl, different, mirrors, statements_mirror rfl different mirrors⟩

end Catalog

end Persistence
