import Persistence.Proofs.Catalog.MappableEntity

/-!
# Faults of criteria

When a query is refused: exactly if one of the fields that its criteria name is no column of the
entity, or holds another entity whose mapping cannot be resolved. The first such field from the
left decides the error, however deep it stands, and what a query asks for of its rows makes no
difference.
-/

set_option autoImplicit false

namespace Persistence

open Schema

/-! ## Fields named -/

/-- The fields that a criterion names, from left to right. A fragment of SQL names none. -/
def Criterion.namedFields : Criterion → List String
  | .compare field _ _ | .between field _ _ | .isIn field _ | .like field _ | .isNull field
  | .isNotNull field => [field]
  | .both left right | .either left right => left.namedFields ++ right.namedFields
  | .verbatim _ => []

def Query.namedFields (query : Query) : List String :=
  query.criteria.flatMap Criterion.namedFields

namespace Catalog

variable {catalog : Catalog} {entity name : String} {mapping : Mapping} {query : Query}
  {fault : Error}

/-- The entity declares the field, and rows of the entity have a column for it. -/
def StoresField (catalog : Catalog) (entity : String) (field : Field) : Prop :=
  ∃ definition, catalog.schema.entity? entity = some definition ∧ field ∈ definition.fields ∧
    field.isPersistent = true ∧ field.hasColumn = true

/-- Why no criterion on the rows of an entity can name a field. -/
inductive RefusesName (catalog : Catalog) (entity name : String) : Error → Prop
  | notStored (absent : ∀ field, catalog.StoresField entity field → field.name ≠ name) :
      RefusesName catalog entity name (.invalidCriteria entity name)
  | unresolvedTarget {field : Field} {association : Association} {column : String}
      {cause : MappingFault} (stored : catalog.StoresField entity field)
      (named : field.name = name) (associated : field.type = .association association)
      (linked : association.link = .oneToOne column)
      (unresolved : catalog.resolve association.target = .error cause) :
      RefusesName catalog entity name (.mapping cause)

theorem storesField_iff (mapped : catalog.mapping entity = .ok mapping) {field : Field} :
    catalog.StoresField entity field ↔ field ∈ mapping.columnFields := by
  obtain ⟨definition, found, described⟩ := mapping_eq_ok.mp mapped
  obtain ⟨-, -, -, key, -, rfl⟩ := Mapping.ofEntity_eq_ok.mp described
  rw [Mapping.columnFields, List.mem_filter, Entity.persistentFields, List.mem_filter, and_assoc]
  constructor
  · rintro ⟨other, isOther, stored⟩
    rw [found, Option.some.injEq] at isOther
    exact isOther ▸ stored
  · exact fun stored => ⟨definition, found, stored⟩

theorem of_storesField (mapped : catalog.mapping entity = .ok mapping) {field : Field}
    (stored : catalog.StoresField entity field) :
    field ∈ mapping.fields ∧ field.hasColumn = true :=
  List.mem_filter.mp ((storesField_iff mapped).mp stored)

/-- A stored field has a storage type unless it holds an entity without a mapping. -/
theorem storageType_eq_error (mapped : catalog.mapping entity = .ok mapping) {field : Field}
    (member : field ∈ mapping.fields) :
    catalog.storageType entity field.name = .error fault ↔
      ∃ association, field.type = .association association ∧
        catalog.mapping association.target = .error fault := by
  have found : mapping.field field.name = .ok field :=
    Mapping.field_eq_ok.mpr (field?_of_mem mapped member)
  simp only [storageType, mapped, found, bind, Except.bind]
  cases typed : field.type with
  | scalar scalar => simp
  | association association =>
      cases targeted : catalog.mapping association.target with
      | error cause => simp [targeted]
      | ok target =>
          -- The key of the target is a scalar, so that nothing is left to fail.
          obtain ⟨scalar, keyed⟩ := scalar_key targeted
          simp [targeted, keyed]

theorem mapping_eq_error :
    catalog.mapping entity = .error fault ↔
      ∃ cause, catalog.resolve entity = .error cause ∧ fault = .mapping cause := by
  rw [Catalog.mapping]
  cases catalog.resolve entity <;> simp [Except.mapError, eq_comm]

theorem field?_of_storesField (mapped : catalog.mapping entity = .ok mapping) {field : Field}
    (stored : catalog.StoresField entity field) : mapping.field? field.name = some field :=
  field?_of_mem mapped (of_storesField mapped stored).1

theorem criterionColumn_of_stored (mapped : catalog.mapping entity = .ok mapping)
    {field : Field} (stored : catalog.StoresField entity field) :
    fault? (catalog.criterionColumn mapping field.name) =
      fault? (catalog.storageType entity field.name) := by
  simp only [criterionColumn, field?_of_storesField mapped stored,
    (of_storesField mapped stored).2, ↓reduceIte, mapping_entity mapped]
  exact fault?_bind_ok

theorem criterionColumn_of_not_stored (mapped : catalog.mapping entity = .ok mapping)
    (absent : ∀ field, catalog.StoresField entity field → field.name ≠ name) :
    catalog.criterionColumn mapping name = .error (.invalidCriteria entity name) := by
  unfold criterionColumn
  rw [mapping_entity mapped]
  cases found : mapping.field? name with
  | none => rfl
  | some field =>
      obtain ⟨member, named⟩ := (Mapping.field?_eq_some_iff (nodup_fieldNames mapped)).mp found
      refine if_neg fun hasColumn => absent field ?_ named
      exact (storesField_iff mapped).mpr (List.mem_filter.mpr ⟨member, hasColumn⟩)

/-- A stored field is refused only for what it holds. -/
theorem refusesName_of_stored (mapped : catalog.mapping entity = .ok mapping) {field : Field}
    (stored : catalog.StoresField entity field) :
    catalog.RefusesName entity field.name fault ↔
      ∃ association, field.type = .association association ∧
        catalog.mapping association.target = .error fault := by
  constructor
  · rintro (absent | @⟨other, association, column, cause, otherStored, named, associated, -,
      unresolved⟩)
    · exact absurd rfl (absent field stored)
    · have found := field?_of_storesField mapped otherStored
      rw [named, field?_of_storesField mapped stored, Option.some.injEq] at found
      exact ⟨association, found ▸ associated, mapping_eq_error.mpr ⟨cause, unresolved, rfl⟩⟩
  · rintro ⟨association, associated, targeted⟩
    obtain ⟨cause, unresolved, rfl⟩ := mapping_eq_error.mp targeted
    have associated? : field.type.association? = some association := by
      rw [associated, FieldType.association?]
    obtain ⟨column, linked⟩ := (Field.hasColumn_iff_oneToOne associated?).mp
      (of_storesField mapped stored).2
    exact .unresolvedTarget stored rfl associated linked unresolved

theorem criterionColumn_eq_error (mapped : catalog.mapping entity = .ok mapping) :
    catalog.criterionColumn mapping name = .error fault ↔
      catalog.RefusesName entity name fault := by
  by_cases named : ∃ field, catalog.StoresField entity field ∧ field.name = name
  · obtain ⟨field, stored, rfl⟩ := named
    rw [refusesName_of_stored mapped stored,
      ← storageType_eq_error mapped (of_storesField mapped stored).1, ← fault?_eq_some,
      criterionColumn_of_stored mapped stored, fault?_eq_some]
  · have absent : ∀ field, catalog.StoresField entity field → field.name ≠ name := by
      simpa using named
    rw [criterionColumn_of_not_stored mapped absent, Except.error.injEq]
    constructor
    · rintro rfl
      exact .notStored absent
    · rintro (- | ⟨stored, isNamed, -, -, -⟩)
      · rfl
      · exact absurd isNamed (absent _ stored)

theorem fault?_criterionColumn_eq_none (mapped : catalog.mapping entity = .ok mapping) :
    fault? (catalog.criterionColumn mapping name) = none ↔
      ∀ reason, ¬ catalog.RefusesName entity name reason := by
  simp only [Option.eq_none_iff_forall_ne_some, ne_eq, fault?_eq_some,
    criterionColumn_eq_error mapped]

/-! ## First fields refused -/

/-- A criterion fails as the first of the fields that it names. -/
theorem fault?_condition (mapping : Mapping) (criterion : Criterion) :
    fault? (catalog.condition mapping criterion) =
      criterion.namedFields.findSome? fun name => fault? (catalog.criterionColumn mapping name) := by
  induction criterion with
  | compare field | between field | isIn field | like field | isNull field | isNotNull field =>
      rw [Criterion.namedFields, List.findSome?_singleton]
      exact fault?_bind_ok
  | both left right leftIH rightIH | either left right leftIH rightIH =>
      rw [Criterion.namedFields, List.findSome?_append, ← leftIH, ← rightIH]
      exact fault?_bind fun _ => fault?_bind_ok
  | verbatim fragment => rfl

/-- A query fails as the first of the fields that its criteria name, whatever it asks for. -/
theorem fault?_selection (mapped : catalog.mapping query.entity = .ok mapping)
    (projection : Projection) :
    fault? (catalog.selection projection query) =
      query.namedFields.findSome? fun name => fault? (catalog.criterionColumn mapping name) := by
  have compiled := fault?_mapM query.criteria fun criterion _ =>
    @fault?_condition catalog mapping criterion
  simp only [selection, mapped]
  rw [Query.namedFields, ← compiled]
  exact fault?_bind_ok

theorem selection_eq_error (mapped : catalog.mapping query.entity = .ok mapping)
    (projection : Projection) :
    catalog.selection projection query = .error fault ↔
      ∃ earlier name later, query.namedFields = earlier ++ name :: later ∧
        catalog.RefusesName query.entity name fault ∧
        ∀ other ∈ earlier, ∀ reason, ¬ catalog.RefusesName query.entity other reason := by
  rw [← fault?_eq_some, fault?_selection mapped, List.findSome?_eq_some_iff]
  simp only [fault?_eq_some, criterionColumn_eq_error mapped,
    fault?_criterionColumn_eq_none mapped]

theorem selection_eq_ok_iff (mapped : catalog.mapping query.entity = .ok mapping)
    (projection : Projection) :
    (∃ statement, catalog.selection projection query = .ok statement) ↔
      ∀ name ∈ query.namedFields, ∀ fault, ¬ catalog.RefusesName query.entity name fault := by
  rw [← fault?_eq_none, fault?_selection mapped, List.findSome?_eq_none_iff]
  exact forall₂_congr fun name _ => fault?_criterionColumn_eq_none mapped

/-- A query on an entity with a mapping fails exactly if one of the fields that its criteria name
is refused, and then for the reason for which the first of them is. Where no field is named, as in
fragments of SQL, nothing is refused. Rows and their number are refused alike. -/
theorem select_eq_error_iff (mapped : catalog.mapping query.entity = .ok mapping) :
    (∀ fault, catalog.select query = .error fault ↔
        ∃ earlier name later, query.namedFields = earlier ++ name :: later ∧
          catalog.RefusesName query.entity name fault ∧
          ∀ other ∈ earlier, ∀ reason, ¬ catalog.RefusesName query.entity other reason) ∧
      ((∃ fault, catalog.select query = .error fault) ↔
        ∃ name ∈ query.namedFields, ∃ fault, catalog.RefusesName query.entity name fault) ∧
      (query.namedFields = [] → ∃ statement, catalog.select query = .ok statement) ∧
      ∀ fault, catalog.count query = .error fault ↔ catalog.select query = .error fault := by
  have succeeds := selection_eq_ok_iff mapped .rows
  refine ⟨fun _ => selection_eq_error mapped .rows, ⟨?_, ?_⟩, ?_, fun fault => ?_⟩
  · rintro ⟨fault, failed⟩
    obtain ⟨earlier, name, later, split, refused, -⟩ :=
      (selection_eq_error mapped .rows).mp failed
    exact ⟨name, by simp [split], fault, refused⟩
  · rintro ⟨name, member, fault, refused⟩
    cases outcome : catalog.select query with
    | error reason => exact ⟨reason, rfl⟩
    | ok statement => exact absurd refused (succeeds.mp ⟨statement, outcome⟩ name member fault)
  · intro unnamed
    exact succeeds.mpr (by simp [unnamed])
  · exact (selection_eq_error mapped .rowCount).trans (selection_eq_error mapped .rows).symm

/-! ## Tasks -/

/-- Tasks with an owner of an entity that the schema lacks, and a remark that is not stored. -/
def taskCatalog : Catalog where
  schema := ⟨[{
    name := "Task"
    fields := [
      { name := "id", type := .scalar .int64, isPrimaryKey := true },
      { name := "title", type := .scalar .string },
      { name := "remark", type := .scalar .string, isTransient := true },
      { name := "owner", type := .association ⟨"owner", "Person", .oneToOne "owner_id"⟩ },
      { name := "parts", type := .association ⟨"parts", "Task", .oneToMany "id"⟩ }] }]⟩

def taskQuery : Query where
  entity := "Task"
  criteria := [
    .verbatim "parts > remark",
    .both (.like "title" "%") (.either (.isNull "owner") (.isNotNull "remark"))]

example : taskCatalog.select taskQuery = .error (.mapping (.unknownEntity "Person")) := by
  rfl

theorem select_eq_error_iff_task :
    ∃ mapping, taskCatalog.mapping taskQuery.entity = .ok mapping ∧
      (∀ fault, taskCatalog.select taskQuery = .error fault ↔
        ∃ earlier name later, taskQuery.namedFields = earlier ++ name :: later ∧
          taskCatalog.RefusesName taskQuery.entity name fault ∧
          ∀ other ∈ earlier, ∀ reason,
            ¬ taskCatalog.RefusesName taskQuery.entity other reason) ∧
      ((∃ fault, taskCatalog.select taskQuery = .error fault) ↔
        ∃ name ∈ taskQuery.namedFields, ∃ fault,
          taskCatalog.RefusesName taskQuery.entity name fault) ∧
      (taskQuery.namedFields = [] →
        ∃ statement, taskCatalog.select taskQuery = .ok statement) ∧
      ∀ fault,
        taskCatalog.count taskQuery = .error fault ↔ taskCatalog.select taskQuery = .error fault :=
  ⟨_, rfl, select_eq_error_iff rfl⟩

end Catalog

end Persistence
