import Persistence.Proofs.Catalog.Resolution
import Persistence.Proofs.Sql.SelectionReading
import Persistence.Query

/-!
# Queries read back

One parser recovers from the text of any compiled query its table, its criteria with their
nesting, columns, operators and values, and its page.
-/

set_option autoImplicit false

namespace Persistence

open Schema

/-! ## What queries can be read back -/

def Binary.isFinite {format : BinaryFormat} (number : Binary format) : Bool :=
  match number.reading with
  | .finite _ _ _ => true
  | _ => false

/-- Whether the value is anything but a float that is no finite number. -/
def Value.isFinite : Value → Bool
  | .float32 value => value.isFinite
  | .float64 value => value.isFinite
  | _ => true

/-- Whether the criterion holds no fragment of SQL and compares with finite values only. -/
def Criterion.isReadable : Criterion → Bool
  | .compare _ _ value => value.isFinite
  | .between _ low high => low.isFinite && high.isFinite
  | .isIn _ values => values.all Value.isFinite
  | .like _ _ | .isNull _ | .isNotNull _ => true
  | .both left right | .either left right => left.isReadable && right.isReadable
  | .verbatim _ => false

/-- Tables and columns have names that need no quotes and are no keywords. -/
def Catalog.HasPlainNames (catalog : Catalog) : Prop :=
  ∀ definition ∈ catalog.schema.entities, Sql.IsPlainName definition.tableName ∧
    ∀ field ∈ definition.persistentFields, field.hasColumn = true →
      Sql.IsPlainName field.columnName

/-- The condition is the criterion with each field replaced by its column and each value by
the literal that the column holds, a number as a decimal in plain form. -/
inductive Catalog.Recovers (catalog : Catalog) (mapping : Mapping) :
    Criterion → Condition → Prop where
  | compare {field column : String} {type : StorageType} (comparison : Comparison)
      (value : Value) (found : catalog.criterionColumn mapping field = .ok (column, type)) :
      Recovers catalog mapping (.compare field comparison value)
        (.compare column comparison (value.literalAs type).plain)
  | between {field column : String} {type : StorageType} (low high : Value)
      (found : catalog.criterionColumn mapping field = .ok (column, type)) :
      Recovers catalog mapping (.between field low high)
        (.between column (low.literalAs type).plain (high.literalAs type).plain)
  | isIn {field column : String} {type : StorageType} (values : List Value)
      (found : catalog.criterionColumn mapping field = .ok (column, type)) :
      Recovers catalog mapping (.isIn field values)
        (.isIn column (values.map fun value => (value.literalAs type).plain))
  | like {field column : String} {type : StorageType} (pattern : String)
      (found : catalog.criterionColumn mapping field = .ok (column, type)) :
      Recovers catalog mapping (.like field pattern) (.like column (.text pattern))
  | isNull {field column : String} {type : StorageType}
      (found : catalog.criterionColumn mapping field = .ok (column, type)) :
      Recovers catalog mapping (.isNull field) (.isNull column)
  | isNotNull {field column : String} {type : StorageType}
      (found : catalog.criterionColumn mapping field = .ok (column, type)) :
      Recovers catalog mapping (.isNotNull field) (.isNotNull column)
  | both {left right : Criterion} {leftCondition rightCondition : Condition}
      (leftRecovered : Recovers catalog mapping left leftCondition)
      (rightRecovered : Recovers catalog mapping right rightCondition) :
      Recovers catalog mapping (.both left right) (.both leftCondition rightCondition)
  | either {left right : Criterion} {leftCondition rightCondition : Condition}
      (leftRecovered : Recovers catalog mapping left leftCondition)
      (rightRecovered : Recovers catalog mapping right rightCondition) :
      Recovers catalog mapping (.either left right) (.either leftCondition rightCondition)

/-! ## Finite values -/

theorem Binary.isFinite_shortest {format : BinaryFormat} {number : Binary format}
    (finite : number.isFinite = true) (tie : TieRule) :
    (Literal.real (number.shortest tie)).isFinite = true := by
  unfold Binary.isFinite at finite
  unfold Binary.shortest
  cases read : number.reading with
  | notANumber => simp [read] at finite
  | infinite negative => simp [read] at finite
  | finite negative significand exponent => cases significand <;> rfl

theorem Value.isFinite_literal {value : Value} (finite : value.isFinite = true) :
    value.literal.isFinite = true := by
  cases value with
  | float32 number => exact Binary.isFinite_shortest finite .away
  | float64 number => exact Binary.isFinite_shortest finite .away
  | _ => rfl

theorem Value.isFinite_literalAs {value : Value} (finite : value.isFinite = true)
    (type : StorageType) : (value.literalAs type).isFinite = true := by
  have own := isFinite_literal finite
  cases value with
  | null => cases type <;> rfl
  | _ => cases type <;> first | rfl | exact own

/-! ## Columns -/

namespace Catalog

/-- The columns that criteria of the mapping can name have plain names. -/
def HasPlainColumns (catalog : Catalog) (mapping : Mapping) : Prop :=
  ∀ {field column : String} {type : StorageType},
    catalog.criterionColumn mapping field = .ok (column, type) → Sql.IsPlainName column

variable {catalog : Catalog} {mapping : Mapping}

theorem hasPlainColumns (named : catalog.HasPlainNames) {entity : String}
    (resolved : catalog.mapping entity = .ok mapping) : catalog.HasPlainColumns mapping := by
  intro field column type found
  obtain ⟨definition, declared, described⟩ := mapping_eq_ok.mp resolved
  obtain ⟨-, -, -, key, -, rfl⟩ := Mapping.ofEntity_eq_ok.mp described
  obtain ⟨stored, isField, hasColumn, -, rfl⟩ := criterionColumn_eq_ok.mp found
  exact (named definition (List.mem_of_find?_eq_some declared)).2 stored
    (List.mem_of_find?_eq_some isField) hasColumn

theorem isPlainName_table (named : catalog.HasPlainNames) {entity : String}
    (resolved : catalog.mapping entity = .ok mapping) : Sql.IsPlainName mapping.table := by
  obtain ⟨definition, declared, described⟩ := mapping_eq_ok.mp resolved
  obtain ⟨-, -, -, key, -, rfl⟩ := Mapping.ofEntity_eq_ok.mp described
  exact (named definition (List.mem_of_find?_eq_some declared)).1

/-! ## Queries -/

/-- The condition of a readable criterion is readable, and in plain form it recovers the
criterion. -/
theorem recovers_condition (named : catalog.HasPlainColumns mapping)
    {criterion : Criterion} {condition : Condition}
    (compiled : catalog.condition mapping criterion = .ok condition)
    (readable : criterion.isReadable = true) :
    condition.IsReadable ∧ catalog.Recovers mapping criterion condition.plain := by
  induction criterion generalizing condition with
  | compare field comparison value =>
      obtain ⟨⟨column, type⟩, found, written⟩ := bind_eq_ok.mp compiled
      cases written
      exact ⟨⟨named found, value.isFinite_literalAs readable type⟩,
        .compare comparison value found⟩
  | between field low high =>
      obtain ⟨⟨column, type⟩, found, written⟩ := bind_eq_ok.mp compiled
      obtain ⟨lowFinite, highFinite⟩ := Bool.and_eq_true_iff.mp readable
      cases written
      exact ⟨⟨named found, low.isFinite_literalAs lowFinite type,
        high.isFinite_literalAs highFinite type⟩, .between low high found⟩
  | isIn field values =>
      obtain ⟨⟨column, type⟩, found, written⟩ := bind_eq_ok.mp compiled
      cases written
      refine ⟨⟨named found, ?_⟩, ?_⟩
      · intro literal member
        obtain ⟨value, isValue, rfl⟩ := List.mem_map.mp member
        exact value.isFinite_literalAs (List.all_eq_true.mp readable value isValue) type
      · have recovered := Recovers.isIn values found
        rw [Condition.plain, List.map_map]
        exact recovered
  | like field pattern =>
      obtain ⟨⟨column, type⟩, found, written⟩ := bind_eq_ok.mp compiled
      cases written
      exact ⟨⟨named found, rfl⟩, .like pattern found⟩
  | isNull field =>
      obtain ⟨⟨column, type⟩, found, written⟩ := bind_eq_ok.mp compiled
      cases written
      exact ⟨named found, .isNull found⟩
  | isNotNull field =>
      obtain ⟨⟨column, type⟩, found, written⟩ := bind_eq_ok.mp compiled
      cases written
      exact ⟨named found, .isNotNull found⟩
  | both left right leftIH rightIH =>
      obtain ⟨leftCondition, leftCompiled, continuation⟩ := bind_eq_ok.mp compiled
      obtain ⟨rightCondition, rightCompiled, written⟩ := bind_eq_ok.mp continuation
      obtain ⟨leftReadable, rightReadable⟩ := Bool.and_eq_true_iff.mp readable
      obtain ⟨leftPlain, leftRecovered⟩ := leftIH leftCompiled leftReadable
      obtain ⟨rightPlain, rightRecovered⟩ := rightIH rightCompiled rightReadable
      cases written
      exact ⟨⟨leftPlain, rightPlain⟩, .both leftRecovered rightRecovered⟩
  | either left right leftIH rightIH =>
      obtain ⟨leftCondition, leftCompiled, continuation⟩ := bind_eq_ok.mp compiled
      obtain ⟨rightCondition, rightCompiled, written⟩ := bind_eq_ok.mp continuation
      obtain ⟨leftReadable, rightReadable⟩ := Bool.and_eq_true_iff.mp readable
      obtain ⟨leftPlain, leftRecovered⟩ := leftIH leftCompiled leftReadable
      obtain ⟨rightPlain, rightRecovered⟩ := rightIH rightCompiled rightReadable
      cases written
      exact ⟨⟨leftPlain, rightPlain⟩, .either leftRecovered rightRecovered⟩
  | verbatim fragment => cases readable

theorem recovers_conditions (named : catalog.HasPlainColumns mapping)
    {criteria : List Criterion} {conditions : List Condition}
    (compiled : List.Forall₂
      (fun criterion condition => catalog.condition mapping criterion = .ok condition)
      criteria conditions)
    (readable : ∀ criterion ∈ criteria, criterion.isReadable = true) :
    (∀ condition ∈ conditions, condition.IsReadable) ∧
      List.Forall₂ (catalog.Recovers mapping) criteria (conditions.map Condition.plain) := by
  induction compiled with
  | nil => exact ⟨fun condition member => absurd member List.not_mem_nil, .nil⟩
  | @cons criterion condition criteria conditions firstCompiled othersCompiled ih =>
      obtain ⟨firstReadable, firstRecovered⟩ :=
        recovers_condition named firstCompiled (readable criterion (by simp))
      obtain ⟨othersReadable, othersRecovered⟩ :=
        ih fun criterion member => readable criterion (by simp [member])
      exact ⟨List.forall_mem_cons.mpr ⟨firstReadable, othersReadable⟩,
        .cons firstRecovered othersRecovered⟩

/-- The text of a compiled query reads back as its table, its criteria in their order and with
their nesting, and its page. -/
theorem parse?_render_select (named : catalog.HasPlainNames) {query : Query}
    {statement : Statement} (compiled : catalog.select query = .ok statement)
    (readable : ∀ criterion ∈ query.criteria, criterion.isReadable = true) :
    ∃ mapping conditions, catalog.mapping query.entity = .ok mapping ∧
      List.Forall₂ (catalog.Recovers mapping) query.criteria conditions ∧
      Sql.parse? statement.render =
        some (.select .rows mapping.table conditions query.page?) := by
  obtain ⟨mapping, resolved, continuation⟩ := bind_eq_ok.mp compiled
  obtain ⟨conditions, conditionsCompiled, written⟩ := bind_eq_ok.mp continuation
  cases written
  obtain ⟨conditionsReadable, recovered⟩ := recovers_conditions
    (hasPlainColumns named resolved) (mapM_eq_ok.mp conditionsCompiled) readable
  exact ⟨mapping, conditions.map Condition.plain, resolved, recovered,
    Sql.parse?_render (isPlainName_table named resolved) conditionsReadable query.page?⟩

/-! ## A query with every way of nesting -/

def noteCatalog : Catalog where
  schema := ⟨[{
    name := "Note"
    fields := [
      { name := "id", type := .scalar .int64, isPrimaryKey := true },
      { name := "title", type := .scalar .string, column := some "heading" },
      { name := "score", type := .scalar .float64 },
      { name := "image", type := .scalar .bytes }] }]⟩

/-- A query whose texts hold quotes and keywords and whose ranges stand beside pairs. -/
def noteQuery : Query where
  entity := "Note"
  criteria := [
    .either
      (.both (.between "id" (.int64 1) (.int64 9)) (.compare "title" .equal (.string "it's")))
      (.isIn "id" []),
    .between "title" (.string "a' AND 'b") (.int32 3),
    .isIn "image" [.bytes [255, 0], .null],
    .compare "score" .lessOrEqual (.float64 ⟨0xBFE8000000000000#64⟩)]
  limit := 5
  offset := 2

example : (noteCatalog.select noteQuery).map Statement.render =
    .ok ("SELECT * FROM note WHERE ((id BETWEEN 1 AND 9 AND heading = 'it''s') OR id IN ()) AND " ++
      "heading BETWEEN 'a'' AND ''b' AND '3' AND image IN (X'ff00', NULL) AND score <= -0.75 " ++
      "LIMIT 5 OFFSET 2") := by
  rfl

theorem hasPlainNames_noteCatalog : noteCatalog.HasPlainNames := by
  intro definition declared
  obtain rfl := List.mem_singleton.mp declared
  refine ⟨⟨⟨_, _, rfl, rfl, rfl⟩, rfl⟩, ?_⟩
  intro field stored hasColumn
  replace stored := (List.mem_filter.mp stored).1
  simp only [List.mem_cons, List.not_mem_nil, or_false] at stored
  obtain rfl | rfl | rfl | rfl := stored <;> exact ⟨⟨_, _, rfl, rfl, rfl⟩, rfl⟩

theorem parse?_render_select_noteQuery :
    noteCatalog.HasPlainNames ∧
      (∀ criterion ∈ noteQuery.criteria, criterion.isReadable = true) ∧
      ∃ statement, noteCatalog.select noteQuery = .ok statement ∧
        ∃ mapping conditions, noteCatalog.mapping noteQuery.entity = .ok mapping ∧
          List.Forall₂ (noteCatalog.Recovers mapping) noteQuery.criteria conditions ∧
          Sql.parse? statement.render =
            some (.select .rows mapping.table conditions noteQuery.page?) := by
  have readable : ∀ criterion ∈ noteQuery.criteria, criterion.isReadable = true := by decide
  exact ⟨hasPlainNames_noteCatalog, readable, _, rfl,
    parse?_render_select hasPlainNames_noteCatalog rfl readable⟩

end Catalog

end Persistence
