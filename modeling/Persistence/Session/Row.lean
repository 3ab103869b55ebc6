import Persistence.Instance.Basic

/-!
# Rows

A row of a result with the names of its columns, and the record that it stands for.
-/

set_option autoImplicit false

namespace Persistence

def integerCell (column : Nat) (value : Value) : Except Error Int64 :=
  match value.toInt64? with
  | some integer => .ok integer
  | none => .error (.row (.notAnInteger column value))

/-- A row of a result. It may have fewer cells than the result has columns. -/
structure Row where
  columns : List String
  cells : List Value
deriving DecidableEq

namespace Row

def columnIndex? (row : Row) (name : String) : Option Nat :=
  row.columns.findIdx? fun column => column == name

def cell (row : Row) (index : Nat) : Except Error Value :=
  match row.cells[index]? with
  | some value => .ok value
  | none => .error (.row (.missingCell index))

def integer (row : Row) (index : Nat) : Except Error Int64 := do
  let value ← row.cell index
  integerCell index value

/-- The value of a field in the row: the cell of its column, narrowed to its scalar type, or
null if the result has no such column. -/
def fieldValue (row : Row) (field : Schema.Field) : Except Error Value := do
  let stored ← match row.columnIndex? field.columnName with
    | some index => row.cell index
    | none => .ok .null
  match field.type.scalar? with
  | some scalar => .ok (stored.narrow scalar)
  | none => .ok stored

def fieldValues (row : Row) : List Schema.Field → Except Error (List (String × Value))
  | [] => .ok []
  | field :: rest => do
      let value ← row.fieldValue field
      let values ← row.fieldValues rest
      .ok ((field.name, value) :: values)

/-- The record of a mapped entity that the row stands for: the fields with columns, in the
order of their declaration. -/
def toRecord (row : Row) (mapping : Mapping) : Except Error Record := do
  let values ← row.fieldValues mapping.columnFields
  .ok ((Record.mk mapping.entity []).setAll values)

end Row

/-- How a session makes records from rows. The number of the row, counted from one over the
life of the session, may matter. -/
structure Factory where
  create : Nat → Mapping → Row → Except Error Record

namespace Factory

def plain : Factory := ⟨fun _ mapping row => row.toRecord mapping⟩

def rejecting (ordinal : Nat) : Factory :=
  ⟨fun number mapping row =>
    if number = ordinal then .error (.row (.rejected ordinal)) else row.toRecord mapping⟩

end Factory

end Persistence
