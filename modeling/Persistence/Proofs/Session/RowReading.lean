import Persistence.Proofs.Catalog.Compilation
import Persistence.Proofs.Catalog.Insertion
import Persistence.Proofs.Sql.StoredValue
import Persistence.Session.Row

/-!
# Rows read back

A record whose row SQLite has taken from an insertion comes back from that row as it was, with
null for what it did not carry, and a change of the row sets the same cells.
-/

set_option autoImplicit false

namespace Persistence

open Schema

/-! ## Records from rows -/

namespace Record

theorem setIn_of_not_mem {name : String} {values : List (String × Value)}
    (fresh : name ∉ values.map Prod.fst) (value : Value) :
    setIn name value values = values ++ [(name, value)] := by
  induction values with
  | nil => rfl
  | cons first rest ih =>
      obtain ⟨firstName, firstValue⟩ := first
      simp only [List.map_cons, List.mem_cons, not_or] at fresh
      rw [setIn, if_neg (Ne.symm fresh.1), ih fresh.2, List.cons_append]

theorem setAll_of_nodup {entity : String} {before values : List (String × Value)}
    (distinct : ((before ++ values).map Prod.fst).Nodup) :
    setAll ⟨entity, before⟩ values = ⟨entity, before ++ values⟩ := by
  -- A name is set at the end of the record, behind all that have been set before.
  induction values generalizing before with
  | nil => simp [setAll]
  | cons first rest ih =>
      obtain ⟨name, value⟩ := first
      have shifted : before ++ (name, value) :: rest = before ++ [(name, value)] ++ rest := by
        simp
      have fresh : name ∉ before.map Prod.fst := by
        rw [List.map_append, List.map_cons, List.nodup_append] at distinct
        exact fun member => distinct.2.2 name member name List.mem_cons_self rfl
      have stepped : setAll ⟨entity, before⟩ ((name, value) :: rest) =
          setAll ⟨entity, before ++ [(name, value)]⟩ rest := by
        simp only [setAll, List.foldl_cons, set, setIn_of_not_mem fresh]
      rw [stepped, shifted, ih (shifted ▸ distinct)]

end Record

namespace Row

/-- The cell of a field stands in the row at the place of its column, if no other field has the
column. -/
theorem exists_cell_of_mem {holds : Field → Value → Prop} {fields : List Field}
    {cells : List Value} (held : List.Forall₂ holds fields cells)
    (distinct : (fields.map Field.columnName).Nodup) {field : Field} (member : field ∈ fields) :
    ∃ index cell, columnIndex? ⟨fields.map Field.columnName, cells⟩ field.columnName =
        some index ∧ cells[index]? = some cell ∧ holds field cell := by
  induction held with
  | nil => exact absurd member List.not_mem_nil
  | @cons first firstCell rest restCells holdsFirst _ ih =>
      rw [List.map_cons, List.nodup_cons] at distinct
      rcases List.mem_cons.mp member with rfl | inRest
      · refine ⟨0, firstCell, ?_, rfl, holdsFirst⟩
        simp [columnIndex?, List.findIdx?_cons]
      · obtain ⟨index, cell, found, present, holdsField⟩ := ih distinct.2 inRest
        have different : (first.columnName == field.columnName) = false := by
          simp only [beq_eq_false_iff_ne]
          intro same
          exact distinct.1 (same ▸ List.mem_map_of_mem inRest)
        refine ⟨index + 1, cell, ?_, present, holdsField⟩
        simp only [columnIndex?] at found
        simp [columnIndex?, List.findIdx?_cons, different, found]

theorem fieldValues_of_each {row : Row} {fields : List Field} {value : Field → Value}
    (each : ∀ field ∈ fields, row.fieldValue field = .ok (value field)) :
    row.fieldValues fields = .ok (fields.map fun field => (field.name, value field)) := by
  induction fields with
  | nil => rfl
  | cons first rest ih =>
      obtain ⟨firstRead, othersRead⟩ := List.forall_mem_cons.mp each
      refine bind_eq_ok.mpr ⟨value first, firstRead, ?_⟩
      exact bind_eq_ok.mpr ⟨_, ih othersRead, rfl⟩

end Row

/-! ## Rows from records -/

theorem Schema.FieldType.scalar?_eq_some {type : FieldType} {scalar : ScalarType} :
    type.scalar? = some scalar ↔ type = .scalar scalar := by
  cases type <;> simp [scalar?]

def Mapping.changedFields (mapping : Mapping) : List Field :=
  mapping.columnFields.filter fun field => !mapping.isKey field.name

namespace Catalog

variable {catalog : Catalog} {mapping : Mapping} {item : Instance}

/-- A scalar field whose type and value come back from SQLite as they were. -/
def Restores (item : Instance) (field : Field) : Prop :=
  ∃ scalar ∈ field.type.scalar?, scalar.isExact = true ∧ (item.value field.name).Fits scalar

instance (item : Instance) (field : Field) : Decidable (Restores item field) :=
  inferInstanceAs (Decidable (∃ scalar ∈ field.type.scalar?, _))

def IsCellOf (item : Instance) (field : Field) (cell : Value) : Prop :=
  ∃ scalar ∈ field.type.scalar?, cell.narrow scalar = item.value field.name

theorem fieldValue_of_cells {fields : List Field} {cells : List Value}
    (held : List.Forall₂ (IsCellOf item) fields cells)
    (distinct : (fields.map Field.columnName).Nodup) {field : Field} (member : field ∈ fields) :
    Row.fieldValue ⟨fields.map Field.columnName, cells⟩ field = .ok (item.value field.name) := by
  obtain ⟨index, cell, found, present, scalar, typed, narrowed⟩ :=
    Row.exists_cell_of_mem held distinct member
  rw [Row.fieldValue, found]
  refine bind_eq_ok.mpr ⟨cell, ?_, ?_⟩
  · simp only [Row.cell, present]
  · rw [Option.mem_def.mp typed, ← narrowed]

theorem exists_fieldLiteral (sqlite : catalog.dialect = .sqlite)
    (mapped : catalog.mapping item.entity = .ok mapping) {field : Field}
    (member : field ∈ mapping.columnFields) (restores : Restores item field) :
    ∃ literal cell, catalog.fieldLiteral mapping item field = .ok literal ∧
      Sql.stored? literal.render = some cell ∧ IsCellOf item field cell := by
  obtain ⟨scalar, typed, exact, fits⟩ := restores
  obtain ⟨cell, stored, narrowed⟩ := Value.narrow_stored exact fits
  have storageType := storageType_of_mem mapped member (FieldType.scalar?_eq_some.mp typed)
  rw [sqlite] at storageType
  exact ⟨_, cell, bind_eq_ok.mpr ⟨_, storageType, rfl⟩, stored, scalar, typed, narrowed⟩

theorem exists_fieldLiterals (item : Instance) (sqlite : catalog.dialect = .sqlite)
    (mapped : catalog.mapping item.entity = .ok mapping) {fields : List Field}
    (columns : ∀ field ∈ fields, field ∈ mapping.columnFields ∧ Restores item field) :
    ∃ literals cells, fields.mapM (catalog.fieldLiteral mapping item) = .ok literals ∧
      List.Forall₂ (fun literal cell => Sql.stored? literal.render = some cell) literals cells ∧
      List.Forall₂ (IsCellOf item) fields cells := by
  induction fields with
  | nil => exact ⟨[], [], rfl, .nil, .nil⟩
  | cons first rest ih =>
      obtain ⟨⟨member, restores⟩, othersColumns⟩ := List.forall_mem_cons.mp columns
      obtain ⟨literal, cell, written, stored, held⟩ :=
        exists_fieldLiteral sqlite mapped member restores
      obtain ⟨literals, cells, othersWritten, othersStored, othersHeld⟩ := ih othersColumns
      refine ⟨literal :: literals, cell :: cells, ?_, .cons stored othersStored,
        .cons held othersHeld⟩
      exact mapM_eq_ok.mpr (.cons written (mapM_eq_ok.mp othersWritten))

theorem toRecord_of_cells (mapped : catalog.mapping item.entity = .ok mapping)
    {cells : List Value} (held : List.Forall₂ (IsCellOf item) mapping.columnFields cells)
    (distinct : (mapping.columnFields.map Field.columnName).Nodup) :
    Row.toRecord ⟨mapping.columnFields.map Field.columnName, cells⟩ mapping =
      .ok ⟨item.entity, mapping.columnFields.map fun field =>
        (field.name, item.value field.name)⟩ := by
  have read := Row.fieldValues_of_each fun field member =>
    fieldValue_of_cells held distinct member
  refine bind_eq_ok.mpr ⟨_, read, ?_⟩
  have names : (mapping.columnFields.map Field.name).Nodup :=
    (nodup_fieldNames mapped).sublist (List.filter_sublist.map Field.name)
  rw [mapping_entity mapped, Record.setAll_of_nodup, List.nil_append]
  rw [List.nil_append, List.map_map]
  exact names

theorem exists_insert {item : Instance} (sqlite : catalog.dialect = .sqlite)
    (mapped : catalog.mapping item.entity = .ok mapping)
    (restores : ∀ field ∈ mapping.columnFields, Restores item field)
    (keepsKey : catalog.leavesKeyToStorage mapping item = .ok false) :
    ∃ literals cells,
      catalog.insert item = .ok (.insert "INSERT INTO" mapping.table
        (mapping.columnFields.map Field.columnName) literals) ∧
      List.Forall₂ (fun literal cell => Sql.stored? literal.render = some cell) literals cells ∧
      List.Forall₂ (IsCellOf item) mapping.columnFields cells := by
  obtain ⟨literals, cells, written, stored, held⟩ :=
    exists_fieldLiterals item sqlite mapped fun field member => ⟨member, restores field member⟩
  refine ⟨literals, cells, ?_, stored, held⟩
  have all : listedFields mapping false = mapping.columnFields := listedFields_of_not rfl
  rw [← all] at written ⊢
  apply (insert_eq_ok mapped).mpr
  exact ⟨false, literals, keepsKey, mapM_eq_ok.mp written, rfl⟩

theorem exists_update {item : Instance} (sqlite : catalog.dialect = .sqlite)
    (mapped : catalog.mapping item.entity = .ok mapping)
    (restores : ∀ field ∈ mapping.columnFields, Restores item field) :
    ∃ literals cells key,
      catalog.update item =
        .ok (if mapping.changedFields.isEmpty then none
          else some (.update mapping.table
            ((mapping.changedFields.map Field.columnName).zip literals)
            (.compare mapping.keyColumn .equal key))) ∧
      List.Forall₂ (fun literal cell => Sql.stored? literal.render = some cell) literals cells ∧
      List.Forall₂ (IsCellOf item) mapping.changedFields cells := by
  have columns : ∀ field ∈ mapping.changedFields,
      field ∈ mapping.columnFields ∧ Restores item field := by
    intro field changed
    have member := List.mem_of_mem_filter changed
    exact ⟨member, restores field member⟩
  obtain ⟨literals, cells, written, stored, held⟩ :=
    exists_fieldLiterals item sqlite mapped columns
  obtain ⟨key, keyed⟩ := exists_keyLiteral mapped
  refine ⟨literals, cells, key, ?_, stored, held⟩
  refine bind_eq_ok.mpr ⟨mapping, mapped, bind_eq_ok.mpr ⟨literals, written, ?_⟩⟩
  rw [← Mapping.changedFields]
  split
  · rfl
  · exact bind_eq_ok.mpr ⟨key, keyed, rfl⟩

/-- What an insertion writes of a record is kept by SQLite as a row from which the record comes
back with its column fields as they were, null where it carried none. What a change of the row
writes is kept as cells from which the same values are read. -/
theorem record_readBack {record : Record} (sqlite : catalog.dialect = .sqlite)
    (mapped : catalog.mapping record.entity = .ok mapping)
    (restores : ∀ field ∈ mapping.columnFields, Restores record.toInstance field)
    (distinct : (mapping.columnFields.map Field.columnName).Nodup) :
    (catalog.leavesKeyToStorage mapping record.toInstance = .ok false →
      ∃ columns literals cells,
        columns = mapping.columnFields.map Field.columnName ∧
        catalog.insert record.toInstance =
          .ok (.insert "INSERT INTO" mapping.table columns literals) ∧
        List.Forall₂ (fun literal cell => Sql.stored? literal.render = some cell)
          literals cells ∧
        ∀ number, Factory.plain.create number mapping ⟨columns, cells⟩ =
          .ok ⟨record.entity, mapping.columnFields.map fun field =>
            (field.name, record.toInstance.value field.name)⟩) ∧
      ∃ statement?, catalog.update record.toInstance = .ok statement? ∧
        (statement? = none ↔
          ∀ field ∈ mapping.columnFields, mapping.isKey field.name = true) ∧
        ∀ statement ∈ statement?, ∃ assignments condition cells,
          statement = .update mapping.table assignments condition ∧
          assignments.map Prod.fst = mapping.changedFields.map Field.columnName ∧
          List.Forall₂ (fun literal cell => Sql.stored? literal.render = some cell)
            (assignments.map Prod.snd) cells ∧
          ∀ field ∈ mapping.columnFields, mapping.isKey field.name = false →
            Row.fieldValue ⟨assignments.map Prod.fst, cells⟩ field =
              .ok (record.toInstance.value field.name) := by
  constructor
  · intro keepsKey
    obtain ⟨literals, cells, inserted, stored, held⟩ :=
      exists_insert sqlite mapped restores keepsKey
    exact ⟨_, literals, cells, rfl, inserted, stored,
      fun _ => toRecord_of_cells mapped held distinct⟩
  · obtain ⟨literals, cells, key, updated, stored, held⟩ :=
      exists_update sqlite mapped restores
    have changedDistinct : (mapping.changedFields.map Field.columnName).Nodup :=
      distinct.sublist (List.filter_sublist.map Field.columnName)
    have sameLength : (mapping.changedFields.map Field.columnName).length =
        literals.length := by
      rw [List.length_map, held.length_eq, stored.length_eq]
    refine ⟨_, updated, ?_, ?_⟩
    · rw [ite_eq_left_iff, List.isEmpty_iff, Mapping.changedFields, List.filter_eq_nil_iff]
      simp
    · intro statement changes
      split at changes
      · cases changes
      · cases changes
        have names := List.map_fst_zip (Nat.le_of_eq sameLength)
        refine ⟨_, _, cells, rfl, names, ?_, ?_⟩
        · rw [List.map_snd_zip (Nat.le_of_eq sameLength.symm)]
          exact stored
        · intro field member notKey
          rw [names]
          refine fieldValue_of_cells held changedDistinct ?_
          exact List.mem_filter.mpr ⟨member, by rw [notKey]; rfl⟩

/-! ## A ticket -/

def ticketCatalog : Catalog where
  schema := ⟨[{
    name := "Ticket"
    fields := [
      { name := "id", type := .scalar .int64, isPrimaryKey := true },
      { name := "paid", type := .scalar .bool },
      { name := "seat", type := .scalar .int32 },
      { name := "bought", type := .scalar .timestamp },
      { name := "holder", type := .scalar .string, column := some "holder_name" },
      { name := "code", type := .scalar .bytes },
      { name := "remark", type := .scalar .string }] }]⟩

/-- A ticket without a remark. -/
def ticket : Record := ⟨"Ticket", [("holder", .string "O'Hara"), ("id", .int64 5),
  ("paid", .bool true), ("seat", .int32 (-3)), ("bought", .timestamp 1700000000000000),
  ("code", .bytes [0, 255])]⟩

example : (ticketCatalog.insert ticket.toInstance).map Statement.render =
    .ok ("INSERT INTO ticket (id, paid, seat, bought, holder_name, code, remark) VALUES " ++
      "(5, 1, -3, 1700000000000000, 'O''Hara', X'00ff', NULL)") := by
  rfl

theorem record_readBack_ticket :
    ∃ mapping, ticketCatalog.dialect = .sqlite ∧
      ticketCatalog.mapping ticket.entity = .ok mapping ∧
      (∀ field ∈ mapping.columnFields, Restores ticket.toInstance field) ∧
      (mapping.columnFields.map Field.columnName).Nodup ∧
      ticketCatalog.leavesKeyToStorage mapping ticket.toInstance = .ok false ∧
      (∃ columns literals cells,
        columns = mapping.columnFields.map Field.columnName ∧
        ticketCatalog.insert ticket.toInstance =
          .ok (.insert "INSERT INTO" mapping.table columns literals) ∧
        List.Forall₂ (fun literal cell => Sql.stored? literal.render = some cell)
          literals cells ∧
        ∀ number, Factory.plain.create number mapping ⟨columns, cells⟩ =
          .ok ⟨ticket.entity, mapping.columnFields.map fun field =>
            (field.name, ticket.toInstance.value field.name)⟩) ∧
      ∃ statement?, ticketCatalog.update ticket.toInstance = .ok statement? ∧
        (statement? = none ↔
          ∀ field ∈ mapping.columnFields, mapping.isKey field.name = true) ∧
        ∀ statement ∈ statement?, ∃ assignments condition cells,
          statement = .update mapping.table assignments condition ∧
          assignments.map Prod.fst = mapping.changedFields.map Field.columnName ∧
          List.Forall₂ (fun literal cell => Sql.stored? literal.render = some cell)
            (assignments.map Prod.snd) cells ∧
          ∀ field ∈ mapping.columnFields, mapping.isKey field.name = false →
            Row.fieldValue ⟨assignments.map Prod.fst, cells⟩ field =
              .ok (ticket.toInstance.value field.name) := by
  refine ⟨_, rfl, rfl, ?_, ?_, rfl, ?_⟩
  · decide
  · decide
  · obtain ⟨inserted, updated⟩ :=
      @record_readBack ticketCatalog _ ticket rfl rfl (by decide) (by decide)
    exact ⟨inserted rfl, updated⟩

end Catalog

end Persistence
