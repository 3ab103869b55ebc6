import Persistence.Proofs.Catalog.Insertion
import Persistence.Sql.Definition

/-!
# Column names

When the fields of an entity and its columns correspond one to one. A mapping has distinct field
names but need not have distinct columns: the one that a field is mapped to, or that its
association names, may also be that of another field.
-/

set_option autoImplicit false

namespace Persistence

open Schema

/-! ## Where column names come from -/

namespace Schema

/-- The column that the declaration of a field gives it, rather than its own name. -/
def Field.givenColumn? (field : Field) : Option String :=
  match field.column, field.type with
  | some column, _ => some column
  | none, .association ⟨_, _, .oneToOne column⟩ => some column
  | none, _ => none

theorem Field.columnName_eq (field : Field) :
    field.columnName = field.givenColumn?.getD field.name := by
  unfold columnName givenColumn?
  split <;> simp only [*, Option.getD_some, Option.getD_none]

def Entity.columnFields (definition : Entity) : List Field :=
  definition.persistentFields.filter Field.hasColumn

/-- No column is given to two stored fields, and none is the name of a field without a given
one. -/
structure Entity.GivesDistinctColumns (definition : Entity) : Prop where
  given : ∀ first ∈ definition.columnFields, ∀ second ∈ definition.columnFields,
    ∀ column, first.givenColumn? = some column → second.givenColumn? = some column →
      first = second
  kept : ∀ first ∈ definition.columnFields, ∀ second ∈ definition.columnFields,
    second.givenColumn? = none → first.givenColumn? ≠ some second.name

theorem Entity.givesDistinctColumns_iff {definition : Entity}
    (names : (definition.columnFields.map Field.name).Nodup) :
    definition.GivesDistinctColumns ↔
      ∀ first ∈ definition.columnFields, ∀ second ∈ definition.columnFields,
        first.columnName = second.columnName → first = second := by
  constructor
  · intro distinct first isFirst second isSecond same
    rw [Field.columnName_eq, Field.columnName_eq] at same
    cases firstGiven : first.givenColumn? with
    | some column =>
        cases secondGiven : second.givenColumn? with
        | some other =>
            rw [firstGiven, secondGiven] at same
            cases same
            exact distinct.given first isFirst second isSecond column firstGiven secondGiven
        | none =>
            rw [firstGiven, secondGiven] at same
            cases same
            exact absurd firstGiven (distinct.kept first isFirst second isSecond secondGiven)
    | none =>
        cases secondGiven : second.givenColumn? with
        | some other =>
            rw [firstGiven, secondGiven] at same
            cases same
            exact absurd secondGiven (distinct.kept second isSecond first isFirst firstGiven)
        | none =>
            rw [firstGiven, secondGiven] at same
            exact List.inj_on_of_nodup_map names isFirst isSecond same
  · intro injective
    constructor
    case given =>
      intro first isFirst second isSecond column firstGiven secondGiven
      refine injective first isFirst second isSecond ?_
      rw [Field.columnName_eq, Field.columnName_eq, firstGiven, secondGiven]
      rfl
    case kept =>
      intro first isFirst second isSecond secondKept firstGiven
      have same : first = second := by
        refine injective first isFirst second isSecond ?_
        rw [Field.columnName_eq, Field.columnName_eq, firstGiven, secondKept]
        rfl
      rw [same, secondKept] at firstGiven
      cases firstGiven

end Schema

/-! ## Columns listed -/

def Mapping.columnNames (mapping : Mapping) : List String :=
  mapping.columnFields.map Field.columnName

/-- The columns that a statement lists one by one: those of a table that it defines, of a row
that it adds, and those that it sets. -/
def Statement.listedColumns : Statement → List String
  | .createTable _ columns _ => columns.map ColumnDefinition.name
  | .insert _ _ columns _ => columns
  | .update _ assignments _ => assignments.map Prod.fst
  | _ => []

namespace Catalog

variable {catalog : Catalog} {entity : String} {mapping : Mapping} {item : Instance}
  {statement : Statement}

inductive ListsColumns (catalog : Catalog) : String → Statement → Prop
  | define {entity : String} {statement : Statement}
      (defined : catalog.entityTable entity = .ok statement) :
      ListsColumns catalog entity statement
  | insert {item : Instance} {statement : Statement}
      (inserted : catalog.insert item = .ok statement) :
      ListsColumns catalog item.entity statement
  | update {item : Instance} {statement : Statement}
      (updated : catalog.update item = .ok (some statement)) :
      ListsColumns catalog item.entity statement

theorem name_of_columnDefinition {field : Field} {column : ColumnDefinition}
    (defined : catalog.columnDefinition mapping field = .ok column) :
    column.name = field.columnName := by
  obtain ⟨type, -, continuation⟩ := bind_eq_ok.mp defined
  obtain ⟨constraints, -, written⟩ := bind_eq_ok.mp continuation
  cases written
  rfl

theorem columns_of_entityTable (mapped : catalog.mapping entity = .ok mapping)
    (defined : catalog.entityTable entity = .ok statement) :
    ∃ columns, statement = .createTable mapping.table columns none ∧
      columns.map ColumnDefinition.name = mapping.columnNames := by
  obtain ⟨found, foundMapped, continuation⟩ := bind_eq_ok.mp defined
  rw [mapped] at foundMapped
  cases foundMapped
  obtain ⟨columns, each, written⟩ := bind_eq_ok.mp continuation
  cases written
  exact ⟨columns, rfl, map_results (mapM_eq_ok.mp each) fun _ _ _ => name_of_columnDefinition⟩

theorem columns_of_insert (mapped : catalog.mapping item.entity = .ok mapping)
    (inserted : catalog.insert item = .ok statement) :
    ∃ (fields : List Field) (values : List Literal), fields.Sublist mapping.columnFields ∧
      statement = .insert "INSERT INTO" mapping.table (fields.map Field.columnName) values := by
  obtain ⟨skipsKey, values, -, -, written⟩ := (insert_eq_ok mapped).mp inserted
  exact ⟨listedFields mapping skipsKey, values, List.filter_sublist, written⟩

theorem columns_of_update (mapped : catalog.mapping item.entity = .ok mapping)
    (updated : catalog.update item = .ok (some statement)) :
    ∃ (fields : List Field) (assignments : List (String × Literal)) (key : Literal),
      fields.Sublist mapping.columnFields ∧
      assignments.map Prod.fst = fields.map Field.columnName ∧
      statement = .update mapping.table assignments (.compare mapping.keyColumn .equal key) := by
  obtain ⟨found, foundMapped, continuation⟩ := bind_eq_ok.mp updated
  rw [mapped] at foundMapped
  cases foundMapped
  obtain ⟨values, each, continuation⟩ := bind_eq_ok.mp continuation
  have sameLength := (mapM_eq_ok.mp each).length_eq
  split at continuation
  · cases continuation
  · obtain ⟨key, -, written⟩ := bind_eq_ok.mp continuation
    cases written
    refine ⟨_, _, key, List.filter_sublist, List.map_fst_zip ?_, rfl⟩
    rw [List.length_map]
    exact Nat.le_of_eq sameLength

/-- Statements list columns of the entity in order. An insertion may leave out the key, and a
change does. -/
theorem listedColumns_sublist (mapped : catalog.mapping entity = .ok mapping)
    (lists : catalog.ListsColumns entity statement) :
    statement.listedColumns.Sublist mapping.columnNames := by
  cases lists with
  | define defined =>
      obtain ⟨columns, rfl, names⟩ := columns_of_entityTable mapped defined
      rw [← names]
      exact .refl _
  | insert inserted =>
      obtain ⟨fields, values, sublist, rfl⟩ := columns_of_insert mapped inserted
      exact sublist.map Field.columnName
  | update updated =>
      obtain ⟨fields, assignments, key, sublist, names, rfl⟩ := columns_of_update mapped updated
      rw [Statement.listedColumns, names]
      exact sublist.map Field.columnName

end Catalog

/-! ## One field for each column -/

namespace Mapping

variable {mapping : Mapping}

/-- Each stored field with a column has one of its own, by which it is found, and no statement
lists a column twice. -/
structure IsOneToOne (mapping : Mapping) : Prop where
  apart : ∀ first ∈ mapping.columnFields, ∀ second ∈ mapping.columnFields,
    first ≠ second → first.columnName ≠ second.columnName
  found : ∀ field ∈ mapping.columnFields,
    mapping.fieldForColumn? field.columnName = some field
  listed : ∀ (catalog : Catalog) (entity : String), catalog.mapping entity = .ok mapping →
    ∀ statement, catalog.ListsColumns entity statement → statement.listedColumns.Nodup

theorem fieldForColumn?_columnName
    (injective : ∀ first ∈ mapping.columnFields, ∀ second ∈ mapping.columnFields,
      first.columnName = second.columnName → first = second)
    {field : Field} (member : field ∈ mapping.columnFields) :
    mapping.fieldForColumn? field.columnName = some field := by
  have occupies : field ∈ mapping.columnFields.filter fun other =>
      other.columnName == field.columnName :=
    List.mem_filter.mpr ⟨member, beq_self_eq_true field.columnName⟩
  have last := List.getLast?_eq_some_getLast (List.ne_nil_of_mem occupies)
  obtain ⟨isField, same⟩ := List.mem_filter.mp (List.mem_of_getLast? last)
  rw [fieldForColumn?, last, injective _ isField field member (by simpa using same)]

/-- The mapping of an entity is one to one exactly if its declaration gives no column to a field
that another one has, by its own declaration or by its name. -/
theorem isOneToOne_iff {inference : KeyInference} {definition : Entity}
    (described : Mapping.ofEntity inference definition = .ok mapping) :
    mapping.IsOneToOne ↔ definition.GivesDistinctColumns := by
  have fields : definition.columnFields = mapping.columnFields := by
    obtain ⟨-, -, -, key, -, rfl⟩ := Mapping.ofEntity_eq_ok.mp described
    rfl
  have names : (definition.columnFields.map Field.name).Nodup := by
    obtain ⟨-, -, unrepeated, -⟩ := Mapping.ofEntity_eq_ok.mp described
    exact (firstRepeated?_eq_none.mp unrepeated).1.sublist (List.filter_sublist.map Field.name)
  rw [Entity.givesDistinctColumns_iff names]
  rw [fields] at names ⊢
  constructor
  · intro oneToOne first isFirst second isSecond same
    by_contra different
    exact oneToOne.apart first isFirst second isSecond different same
  · intro injective
    constructor
    case apart =>
      intro first isFirst second isSecond different same
      exact different (injective first isFirst second isSecond same)
    case found =>
      intro field member
      exact fieldForColumn?_columnName injective member
    case listed =>
      intro catalog entity mapped statement lists
      have columns : mapping.columnNames.Nodup :=
        List.Nodup.map_on injective (List.Nodup.of_map Field.name names)
      exact columns.sublist (Catalog.listedColumns_sublist mapped lists)

end Mapping

/-! ## Two headings -/

/-- Articles whose heading is mapped to the column that the title has by its name. -/
def article : Entity where
  name := "Article"
  table := some "article"
  fields := [
    { name := "id", type := .scalar .int64, isPrimaryKey := true },
    { name := "title", type := .scalar .string },
    { name := "heading", type := .scalar .string, column := some "title" }]

def articleCatalog : Catalog where
  schema := ⟨[article]⟩

theorem isOneToOne_iff_article :
    ∃ mapping, Mapping.ofEntity {} article = .ok mapping ∧
      (mapping.IsOneToOne ↔ article.GivesDistinctColumns) :=
  ⟨_, rfl, @Mapping.isOneToOne_iff _ {} article rfl⟩

/-- The title is not found by its column, and both the definition of the table and the addition
of a row list that column twice. -/
theorem not_isOneToOne_article :
    ∃ mapping title heading, Mapping.ofEntity {} article = .ok mapping ∧
      title ∈ mapping.columnFields ∧ title.name = "title" ∧
      heading ∈ mapping.columnFields ∧ heading.name = "heading" ∧
      mapping.fieldForColumn? title.columnName = some heading ∧
      (articleCatalog.entityTable "Article").map Statement.listedColumns =
        .ok ["id", "title", "title"] ∧
      (articleCatalog.insert (Record.toInstance ⟨"Article", [("id", .int64 1)]⟩)).map
        Statement.listedColumns = .ok ["id", "title", "title"] ∧
      ¬ mapping.IsOneToOne := by
  refine ⟨_, _, _, rfl, List.mem_of_getElem? (i := 1) rfl, rfl,
    List.mem_of_getElem? (i := 2) rfl, rfl, rfl, rfl, rfl, ?_⟩
  intro oneToOne
  exact absurd (oneToOne.found _ (List.mem_of_getElem? (i := 1) rfl)) (by decide)

end Persistence
