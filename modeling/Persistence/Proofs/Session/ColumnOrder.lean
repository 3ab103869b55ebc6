import Persistence.Proofs.Catalog.RowColumns
import Persistence.Proofs.Session.RowReading

/-!
# Order of columns

The record that a row stands for is told by which column has which cell. The order of the
columns and columns that belong to no field make no difference.
-/

set_option autoImplicit false

namespace Persistence

open Schema

/-- A value from the column of the field, as the field holds it. -/
def Schema.Field.narrowed (field : Field) (stored : Value) : Value :=
  match field.type with
  | .scalar scalar => stored.narrow scalar
  | .association _ => stored

theorem Schema.Field.narrowed_null (field : Field) : field.narrowed .null = .null := by
  unfold narrowed
  cases field.type with
  | scalar scalar => cases scalar <;> rfl
  | association association => rfl

namespace Row

variable {row other : Row} {name : String} {field : Field} {value : Value} {mapping : Mapping}

/-! ## Named cells -/

/-- The columns of the row, each with the cell that the row has for it. -/
def namedCells (row : Row) : List (String × Option Value) :=
  row.columns.mapIdx fun index name => (name, row.cells[index]?)

theorem mem_namedCells {cell? : Option Value} :
    (name, cell?) ∈ row.namedCells ↔
      ∃ index : Nat, row.columns[index]? = some name ∧ row.cells[index]? = cell? := by
  simp only [namedCells, List.mem_iff_getElem?, List.getElem?_mapIdx, Option.map_eq_some_iff,
    Prod.mk.injEq]
  constructor
  · rintro ⟨index, _, named, rfl, stored⟩
    exact ⟨index, named, stored⟩
  · rintro ⟨index, named, stored⟩
    exact ⟨index, name, named, rfl, stored⟩

theorem exists_namedCell :
    (∃ cell?, (name, cell?) ∈ row.namedCells) ↔ name ∈ row.columns := by
  simp only [mem_namedCells]
  rw [List.mem_iff_getElem?]
  constructor
  · rintro ⟨_, index, named, -⟩
    exact ⟨index, named⟩
  · rintro ⟨index, named⟩
    exact ⟨_, index, named, rfl⟩

/-- The columns of the name do not differ in their cells. -/
def Agrees (row : Row) (name : String) : Prop :=
  ∀ first second, (name, first) ∈ row.namedCells → (name, second) ∈ row.namedCells →
    first = second

theorem agrees_of_nodup (distinct : row.columns.Nodup) (name : String) : row.Agrees name := by
  intro first second isFirst isSecond
  obtain ⟨index, named, rfl⟩ := mem_namedCells.mp isFirst
  obtain ⟨otherIndex, otherNamed, rfl⟩ := mem_namedCells.mp isSecond
  obtain ⟨bound, -⟩ := List.getElem?_eq_some_iff.mp named
  rw [(List.getElem?_inj bound distinct).mp (named.trans otherNamed.symm)]

/-- The row has a cell for each of its columns that belongs to a field. -/
def HasCells (row : Row) (mapping : Mapping) : Prop :=
  ∀ cell ∈ row.namedCells, cell.1 ∈ mapping.columnNames → cell.2.isSome

theorem hasCells_of_length_le (full : row.columns.length ≤ row.cells.length)
    (mapping : Mapping) : row.HasCells mapping := by
  rintro ⟨name, cell?⟩ member -
  obtain ⟨index, named, rfl⟩ := mem_namedCells.mp member
  obtain ⟨bound, -⟩ := List.getElem?_eq_some_iff.mp named
  rw [List.getElem?_eq_getElem (Nat.lt_of_lt_of_le bound full)]
  rfl

/-! ## Values of fields -/

/-- What a field is in the row: the cell of its column as the field holds it, or null if the
row has no such column. -/
inductive Gives (row : Row) (field : Field) : Value → Prop
  | cell {stored : Value} (member : (field.columnName, some stored) ∈ row.namedCells) :
      Gives row field (field.narrowed stored)
  | missing (absent : field.columnName ∉ row.columns) : Gives row field .null

theorem fieldValue_eq_map (row : Row) (field : Field) :
    row.fieldValue field =
      ((row.columnIndex? field.columnName).elim (.ok .null) row.cell).map field.narrowed := by
  unfold fieldValue Field.narrowed
  cases row.columnIndex? field.columnName with
  | none => cases field.type <;> rfl
  | some index =>
      simp only [Option.elim_some]
      cases row.cell index <;> cases field.type <;> rfl

theorem fieldValue_of_not_mem (absent : field.columnName ∉ row.columns) :
    row.fieldValue field = .ok .null := by
  have unfound : row.columnIndex? field.columnName = none := by
    simp only [columnIndex?, List.findIdx?_eq_none_iff, beq_eq_false_iff_ne]
    exact fun column member same => absent (same ▸ member)
  rw [fieldValue_eq_map, unfound, Option.elim_none, Except.map, field.narrowed_null]

/-- The first column of the name is the one that is read. -/
theorem exists_read (isColumn : field.columnName ∈ row.columns) :
    ∃ index, (field.columnName, row.cells[index]?) ∈ row.namedCells ∧
      row.fieldValue field = (row.cell index).map field.narrowed := by
  have isFound : (row.columnIndex? field.columnName).isSome := by
    simp only [columnIndex?, List.findIdx?_isSome, List.any_eq_true]
    exact ⟨_, isColumn, beq_self_eq_true _⟩
  obtain ⟨index, found⟩ := Option.isSome_iff_exists.mp isFound
  obtain ⟨bound, isNamed, -⟩ := List.findIdx?_eq_some_iff_getElem.mp found
  refine ⟨index, mem_namedCells.mpr ⟨index, ?_, rfl⟩, ?_⟩
  · exact List.getElem?_eq_some_iff.mpr ⟨bound, by simpa using isNamed⟩
  · rw [fieldValue_eq_map, found, Option.elim_some]

theorem fieldValue_eq_ok (agrees : row.Agrees field.columnName) :
    row.fieldValue field = .ok value ↔ row.Gives field value := by
  by_cases isColumn : field.columnName ∈ row.columns
  · obtain ⟨index, member, reads⟩ := exists_read isColumn
    rw [reads]
    constructor
    · intro narrowed
      cases present : row.cells[index]? with
      | none => simp [cell, present, Except.map] at narrowed
      | some stored =>
          simp only [cell, present, Except.map, Except.ok.injEq] at narrowed
          exact narrowed ▸ .cell (present ▸ member)
    · intro gives
      cases gives with
      | cell isCell => simp only [cell, agrees _ _ member isCell, Except.map]
      | missing absent => exact absurd isColumn absent
  · rw [fieldValue_of_not_mem isColumn, Except.ok.injEq]
    constructor
    · rintro rfl
      exact .missing isColumn
    · intro gives
      cases gives with
      | cell isCell => exact absurd (exists_namedCell.mp ⟨_, isCell⟩) isColumn
      | missing _ => rfl

/-! ## Records -/

/-- A field with its name, as it comes into the record. -/
def namedValue (row : Row) (field : Field) : Except Error (String × Value) :=
  (row.fieldValue field).map fun value => (field.name, value)

theorem namedValue_eq_ok {pair : String × Value} :
    row.namedValue field = .ok pair ↔
      pair.1 = field.name ∧ row.fieldValue field = .ok pair.2 := by
  obtain ⟨name, value⟩ := pair
  unfold namedValue
  cases row.fieldValue field <;> simp [Except.map, eq_comm]

theorem fieldValues_eq_mapM (row : Row) (fields : List Field) :
    row.fieldValues fields = fields.mapM row.namedValue := by
  induction fields with
  | nil => rfl
  | cons first rest ih =>
      rw [List.mapM_cons, ← ih, fieldValues, namedValue]
      cases row.fieldValue first <;> rfl

theorem toRecord_eq_ok {catalog : Catalog} {entity : String} {record : Record}
    (mapped : catalog.mapping entity = .ok mapping) :
    row.toRecord mapping = .ok record ↔ record.entity = mapping.entity ∧
      List.Forall₂ (fun field pair => row.namedValue field = .ok pair)
        mapping.columnFields record.values := by
  have distinct : (mapping.columnFields.map Field.name).Nodup :=
    (Catalog.nodup_fieldNames mapped).sublist (List.filter_sublist.map Field.name)
  -- The names of the fields differ, so that no value takes the place of another.
  have kept {values : List (String × Value)}
      (read : row.fieldValues mapping.columnFields = .ok values) :
      (Record.mk mapping.entity []).setAll values = ⟨mapping.entity, values⟩ := by
    rw [fieldValues_eq_mapM, mapM_eq_ok] at read
    have names : values.map Prod.fst = mapping.columnFields.map Field.name :=
      map_results read fun _ _ _ named => (namedValue_eq_ok.mp named).1
    rw [Record.setAll_of_nodup, List.nil_append]
    rw [List.nil_append, names]
    exact distinct
  rw [← mapM_eq_ok, ← fieldValues_eq_mapM]
  constructor
  · intro made
    obtain ⟨values, read, written⟩ := bind_eq_ok.mp made
    rw [kept read, Except.ok.injEq] at written
    exact written ▸ ⟨rfl, read⟩
  · rintro ⟨named, read⟩
    refine bind_eq_ok.mpr ⟨_, read, ?_⟩
    rw [kept read, ← named]

/-- A row gives a record if it has a cell for each column that is read. -/
theorem exists_toRecord_iff {catalog : Catalog} {entity : String}
    (mapped : catalog.mapping entity = .ok mapping) (distinct : row.columns.Nodup) :
    (∃ record, row.toRecord mapping = .ok record) ↔ row.HasCells mapping := by
  constructor
  · rintro ⟨record, made⟩ ⟨name, cell?⟩ member isMapped
    obtain ⟨field, isField, rfl⟩ := List.mem_map.mp isMapped
    obtain ⟨-, read⟩ := (toRecord_eq_ok mapped).mp made
    obtain ⟨⟨fieldName, value⟩, -, named⟩ := exists_result read isField
    have agrees := agrees_of_nodup distinct field.columnName
    cases (fieldValue_eq_ok agrees).mp (namedValue_eq_ok.mp named).2 with
    | cell isCell => exact Option.isSome_iff_exists.mpr ⟨_, agrees _ _ member isCell⟩
    | missing absent => exact absurd (exists_namedCell.mp ⟨_, member⟩) absent
  · intro hasCells
    have each : ∀ field ∈ mapping.columnFields, ∃ pair, row.namedValue field = .ok pair := by
      intro field isField
      suffices gives : ∃ value, row.Gives field value by
        obtain ⟨value, given⟩ := gives
        have read := (fieldValue_eq_ok (agrees_of_nodup distinct _)).mpr given
        exact ⟨(field.name, value), namedValue_eq_ok.mpr ⟨rfl, read⟩⟩
      by_cases isColumn : field.columnName ∈ row.columns
      · obtain ⟨cell?, member⟩ := exists_namedCell.mpr isColumn
        obtain ⟨stored, rfl⟩ := Option.isSome_iff_exists.mp
          (hasCells _ member (Mapping.columnName_mem isField))
        exact ⟨_, .cell member⟩
      · exact ⟨_, .missing isColumn⟩
    obtain ⟨values, read⟩ := exists_mapM each
    exact ⟨⟨mapping.entity, values⟩, (toRecord_eq_ok mapped).mpr ⟨rfl, mapM_eq_ok.mp read⟩⟩

/-! ## Permuted and added columns -/

section Permuted

variable {added : List (String × Option Value)}
  (permuted : other.namedCells.Perm (row.namedCells ++ added))
  (unmapped : ∀ cell ∈ added, cell.1 ∉ mapping.columnNames)

include permuted unmapped

theorem mem_namedCells_of_perm (isMapped : name ∈ mapping.columnNames) {cell? : Option Value} :
    (name, cell?) ∈ other.namedCells ↔ (name, cell?) ∈ row.namedCells := by
  rw [permuted.mem_iff, List.mem_append, or_iff_left]
  exact fun isAdded => unmapped _ isAdded isMapped

theorem agrees_of_perm (isMapped : name ∈ mapping.columnNames) (agrees : row.Agrees name) :
    other.Agrees name := by
  intro first second isFirst isSecond
  rw [mem_namedCells_of_perm permuted unmapped isMapped] at isFirst isSecond
  exact agrees first second isFirst isSecond

theorem gives_iff_of_perm (isMapped : field.columnName ∈ mapping.columnNames) :
    other.Gives field value ↔ row.Gives field value := by
  have sameColumn : field.columnName ∈ other.columns ↔ field.columnName ∈ row.columns := by
    rw [← exists_namedCell, ← exists_namedCell]
    exact exists_congr fun _ => mem_namedCells_of_perm permuted unmapped isMapped
  constructor
  · intro gives
    cases gives with
    | cell isCell => exact .cell ((mem_namedCells_of_perm permuted unmapped isMapped).mp isCell)
    | missing absent => exact .missing (mt sameColumn.mpr absent)
  · intro gives
    cases gives with
    | cell isCell => exact .cell ((mem_namedCells_of_perm permuted unmapped isMapped).mpr isCell)
    | missing absent => exact .missing (mt sameColumn.mp absent)

theorem namedValue_iff_of_perm (isMapped : field.columnName ∈ mapping.columnNames)
    (agrees : row.Agrees field.columnName) (pair : String × Value) :
    other.namedValue field = .ok pair ↔ row.namedValue field = .ok pair := by
  have otherAgrees := agrees_of_perm permuted unmapped isMapped agrees
  rw [namedValue_eq_ok, namedValue_eq_ok, fieldValue_eq_ok agrees, fieldValue_eq_ok otherAgrees,
    gives_iff_of_perm permuted unmapped isMapped]

theorem toRecord_iff_of_perm {catalog : Catalog} {entity : String}
    (mapped : catalog.mapping entity = .ok mapping) (distinct : row.columns.Nodup)
    (record : Record) :
    other.toRecord mapping = .ok record ↔ row.toRecord mapping = .ok record := by
  have each {field : Field} {pair : String × Value}
      (paired : (field, pair) ∈ mapping.columnFields.zip record.values) :
      other.namedValue field = .ok pair ↔ row.namedValue field = .ok pair :=
    namedValue_iff_of_perm permuted unmapped
      (Mapping.columnName_mem (List.of_mem_zip paired).1) (agrees_of_nodup distinct _) pair
  rw [toRecord_eq_ok mapped, toRecord_eq_ok mapped, List.forall₂_iff_zip, List.forall₂_iff_zip]
  refine and_congr_right fun _ => and_congr_right fun _ => ?_
  exact ⟨fun read _ _ paired => (each paired).mp (read paired),
    fun read _ _ paired => (each paired).mpr (read paired)⟩

end Permuted

/-- The record that the plain factory makes of a row whose columns differ in name has the fields
with columns in the order of their declaration, each as the row gives it, and there is one
unless a cell is missing. It stays the same when the columns change places along with their
cells, and next to columns that belong to no field. -/
theorem create_plain_of_nodup {catalog : Catalog} {entity : String}
    (mapped : catalog.mapping entity = .ok mapping) (distinct : row.columns.Nodup)
    (number : Nat) :
    (∀ record, Factory.plain.create number mapping row = .ok record ↔
      record.entity = mapping.entity ∧
      List.Forall₂ (fun field pair => pair.1 = field.name ∧ row.Gives field pair.2)
        mapping.columnFields record.values) ∧
    ((∃ record, Factory.plain.create number mapping row = .ok record) ↔ row.HasCells mapping) ∧
    ∀ other added, other.namedCells.Perm (row.namedCells ++ added) →
      (∀ cell ∈ added, cell.1 ∉ mapping.columnNames) →
      ∀ otherNumber record, Factory.plain.create otherNumber mapping other = .ok record ↔
        Factory.plain.create number mapping row = .ok record := by
  refine ⟨fun record => ?_, exists_toRecord_iff mapped distinct, ?_⟩
  · refine (toRecord_eq_ok mapped).trans ?_
    simp only [namedValue_eq_ok, fieldValue_eq_ok (agrees_of_nodup distinct _)]
  · intro other added permuted unmapped _ record
    exact toRecord_iff_of_perm permuted unmapped mapped distinct record

/-! ## A ticket with a price -/

def ticketRow : Row :=
  ⟨["id", "holder_name", "paid", "seat"], [.int64 5, .string "O'Hara", .int64 1, .int64 7]⟩

def pricedTicketRow : Row :=
  ⟨["seat", "price", "holder_name", "paid", "id"],
    [.int64 7, .int64 12, .string "O'Hara", .int64 1, .int64 5]⟩

example : (Catalog.ticketCatalog.mapping "Ticket" >>= pricedTicketRow.toRecord) =
    .ok ⟨"Ticket", [("id", .int64 5), ("paid", .bool true), ("seat", .int32 7),
      ("bought", .null), ("holder", .string "O'Hara"), ("code", .null), ("remark", .null)]⟩ := by
  rfl

theorem create_plain_of_nodup_ticket :
    ∃ mapping record, Catalog.ticketCatalog.mapping "Ticket" = .ok mapping ∧
      ticketRow.columns.Nodup ∧ ticketRow.HasCells mapping ∧
      pricedTicketRow.namedCells.Perm
        (ticketRow.namedCells ++ [("price", some (.int64 12))]) ∧
      "price" ∉ mapping.columnNames ∧
      Factory.plain.create 1 mapping ticketRow = .ok record ∧
      Factory.plain.create 2 mapping pricedTicketRow = .ok record ∧
      record.entity = mapping.entity ∧
      List.Forall₂ (fun field pair => pair.1 = field.name ∧ ticketRow.Gives field pair.2)
        mapping.columnFields record.values := by
  obtain ⟨mapping, mapped, unmapped⟩ : ∃ mapping,
      Catalog.ticketCatalog.mapping "Ticket" = .ok mapping ∧ "price" ∉ mapping.columnNames :=
    ⟨_, rfl, by decide⟩
  have distinct : ticketRow.columns.Nodup := by decide
  have hasCells := @hasCells_of_length_le ticketRow (by decide) mapping
  have permuted : pricedTicketRow.namedCells.Perm
      (ticketRow.namedCells ++ [("price", some (.int64 12))]) := by decide
  obtain ⟨isRead, isMade, isSame⟩ := create_plain_of_nodup mapped distinct 1
  obtain ⟨record, made⟩ := isMade.mpr hasCells
  obtain ⟨named, read⟩ := (isRead record).mp made
  have madeOfPriced :=
    (isSame pricedTicketRow _ permuted (List.forall_mem_singleton.mpr unmapped) 2 record).mpr made
  exact ⟨mapping, record, mapped, distinct, hasCells, permuted, unmapped, made, madeOfPriced,
    named, read⟩

end Row

end Persistence
