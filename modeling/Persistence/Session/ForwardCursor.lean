import Persistence.Session.Row

/-!
# Forward cursors

A cursor over rows read in full. It starts before the first row, moves forward, can return
to the first row, and gives nothing once it is closed.
-/

set_option autoImplicit false

namespace Persistence

structure ForwardCursor where
  columns : List String
  /-- The rows, none once the cursor is closed. -/
  rows : List (List Value)
  /-- Index of the current row, or nothing before the first move. It stops at the number of
  rows. -/
  position : Option Nat := none
  isClosed : Bool := false
deriving DecidableEq

namespace ForwardCursor

def count (cursor : ForwardCursor) : Nat := cursor.rows.length

/-- Moves to the next row. The answer is whether there is one. -/
def next (cursor : ForwardCursor) : Bool × ForwardCursor :=
  let target := match cursor.position with
    | none => 0
    | some position => position + 1
  (target < cursor.rows.length,
    { cursor with position := some (min target cursor.rows.length) })

/-- Moves to the first row. The answer is whether there is one. -/
def first (cursor : ForwardCursor) : Bool × ForwardCursor :=
  (!cursor.rows.isEmpty, { cursor with position := some 0 })

def columnIndex? (cursor : ForwardCursor) (name : String) : Option Nat :=
  cursor.columns.findIdx? fun column => column == name

def value (cursor : ForwardCursor) (index : Nat) : Except Error Value :=
  if cursor.isClosed then .error (.storage .cursorClosed)
  else
    match cursor.position.bind fun position => cursor.rows[position]? with
    | none => .error (.storage .cursorNotOnRow)
    | some row =>
        match row[index]? with
        | none => .error (.storage (.columnOutOfRange index))
        | some value => .ok value

def integer (cursor : ForwardCursor) (index : Nat) : Except Error Int64 := do
  let value ← cursor.value index
  integerCell index value

def close (cursor : ForwardCursor) : ForwardCursor :=
  { cursor with isClosed := true, rows := [] }

/-! ## Cells as storage holds them -/

/-- A cell as a database of loose types holds it. Text is kept as bytes and need not be
sound. -/
inductive StoredCell where
  | null
  | integer (value : Int64)
  | real (value : Binary64)
  | text (bytes : List UInt8)
  | blob (bytes : List UInt8)
deriving DecidableEq

def StoredCell.value (column : Nat) : StoredCell → Except Error Value
  | .null => .ok .null
  | .integer value => .ok (.int64 value)
  | .real value => .ok (.float64 value)
  | .blob bytes => .ok (.bytes bytes)
  | .text bytes =>
      match Text.ofUtf8 bytes with
      | .ok contents => .ok (.string contents)
      | .error fault => .error (.storage (.invalidText column fault))

/-- The values of the cells of a row whose first cell is in the column at an index. -/
def readCells : Nat → List StoredCell → Except Error (List Value)
  | _, [] => .ok []
  | column, cell :: rest => do
      let value ← cell.value column
      let values ← readCells (column + 1) rest
      .ok (value :: values)

/-- The cursor over the rows of a result, refused at the first cell that has no value. -/
def ofStored (columns : List String) (rows : List (List StoredCell)) :
    Except Error ForwardCursor := do
  let rows ← rows.mapM (readCells 0)
  .ok { columns, rows }

end ForwardCursor

end Persistence
