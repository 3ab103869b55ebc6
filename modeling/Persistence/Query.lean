import Persistence.Catalog
import Persistence.Sql.Statement

/-!
# Queries

Questions about the rows of one entity: criteria on its fields, a limit and an offset.
Compiling a query turns fields into columns and values into literals of the columns' types.
-/

set_option autoImplicit false

namespace Persistence

/-- A condition on the fields of an entity. -/
inductive Criterion where
  | compare (field : String) (comparison : Comparison) (value : Value)
  | between (field : String) (low high : Value)
  | isIn (field : String) (values : List Value)
  | like (field pattern : String)
  | isNull (field : String)
  | isNotNull (field : String)
  | both (left right : Criterion)
  | either (left right : Criterion)
  /-- A fragment of SQL, taken as it is. -/
  | verbatim (fragment : String)
deriving DecidableEq

/-- A query. All criteria have to hold. A limit of zero is none, and without a limit the
offset is ignored. -/
structure Query where
  entity : String
  criteria : List Criterion := []
  /-- Most rows wanted, or zero. -/
  limit : Nat := 0
  offset : Nat := 0
deriving DecidableEq

def Query.page? (query : Query) : Option Page :=
  if query.limit = 0 then none else some ⟨query.limit, query.offset⟩

namespace Catalog

def criterionColumn (catalog : Catalog) (mapping : Mapping) (field : String) :
    Except Error (String × StorageType) :=
  match mapping.field? field with
  | some found =>
      if found.hasColumn then do
        let type ← catalog.storageType mapping.entity field
        .ok (found.columnName, type)
      else .error (.invalidCriteria mapping.entity field)
  | none => .error (.invalidCriteria mapping.entity field)

/-- The condition that a criterion stands for. Of several faults the leftmost is reported. -/
def condition (catalog : Catalog) (mapping : Mapping) : Criterion → Except Error Condition
  | .compare field comparison value => do
      let (column, type) ← catalog.criterionColumn mapping field
      .ok (.compare column comparison (value.literalAs type))
  | .between field low high => do
      let (column, type) ← catalog.criterionColumn mapping field
      .ok (.between column (low.literalAs type) (high.literalAs type))
  | .isIn field values => do
      let (column, type) ← catalog.criterionColumn mapping field
      .ok (.isIn column (values.map (Value.literalAs type)))
  | .like field pattern => do
      let (column, _) ← catalog.criterionColumn mapping field
      .ok (.like column (.text pattern))
  | .isNull field => do
      let (column, _) ← catalog.criterionColumn mapping field
      .ok (.isNull column)
  | .isNotNull field => do
      let (column, _) ← catalog.criterionColumn mapping field
      .ok (.isNotNull column)
  | .both left right => do
      let left ← catalog.condition mapping left
      let right ← catalog.condition mapping right
      .ok (.both left right)
  | .either left right => do
      let left ← catalog.condition mapping left
      let right ← catalog.condition mapping right
      .ok (.either left right)
  | .verbatim fragment => .ok (.verbatim fragment)

def selection (catalog : Catalog) (projection : Projection) (query : Query) :
    Except Error Statement := do
  let mapping ← catalog.mapping query.entity
  let conditions ← query.criteria.mapM (catalog.condition mapping)
  .ok (.select projection mapping.table conditions query.page?)

def select (catalog : Catalog) (query : Query) : Except Error Statement :=
  catalog.selection .rows query

def count (catalog : Catalog) (query : Query) : Except Error Statement :=
  catalog.selection .rowCount query

end Catalog

end Persistence
