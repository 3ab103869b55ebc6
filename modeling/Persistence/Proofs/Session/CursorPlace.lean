import Persistence.Proofs.Outcome
import Persistence.Session.ForwardCursor

/-!
# Places of cursors

What a cursor is to its users: a place before the rows of a result, on one of them or behind
them all, until it is closed. No index and no bound appears.
-/

set_option autoImplicit false

namespace Persistence

/-! ## Actions -/

inductive CursorAction where
  | next
  | first
  | count
  | value (column : Nat)
  | integer (column : Nat)
  | close
deriving DecidableEq, Repr

inductive CursorAnswer where
  | moved (isOnRow : Bool)
  | counted (number : Nat)
  | value (outcome : Except Error Value)
  | integer (outcome : Except Error Int64)
  | done

namespace CursorAction

section Runs

variable {σ : Type} (perform : σ → CursorAction → CursorAnswer × σ)

/-- The answers to actions taken one after the other. -/
def answers : σ → List CursorAction → List CursorAnswer
  | _, [] => []
  | state, action :: rest =>
      (perform state action).1 :: answers (perform state action).2 rest

/-- The state behind the last of the actions. -/
def runFrom (state : σ) (actions : List CursorAction) : σ :=
  actions.foldl (fun state action => (perform state action).2) state

end Runs

end CursorAction

open CursorAction

def ForwardCursor.perform (cursor : ForwardCursor) :
    CursorAction → CursorAnswer × ForwardCursor
  | .next => (.moved cursor.next.1, cursor.next.2)
  | .first => (.moved cursor.first.1, cursor.first.2)
  | .count => (.counted cursor.count, cursor)
  | .value column => (.value (cursor.value column), cursor)
  | .integer column => (.integer (cursor.integer column), cursor)
  | .close => (.done, cursor.close)

/-! ## Places -/

inductive CursorPlace (rows : List (List Value)) where
  | beforeFirst
  | on (row : Fin rows.length)
  | afterLast
  | closed

namespace CursorPlace

variable {rows : List (List Value)}

/-- The place on a row of a number, behind the last row if there are not so many. -/
def ofNumber (number : Nat) : CursorPlace rows :=
  if bound : number < rows.length then .on ⟨number, bound⟩ else .afterLast

def isOnRow : CursorPlace rows → Bool
  | .on _ => true
  | _ => false

def isClosed : CursorPlace rows → Bool
  | .closed => true
  | _ => false

def next : CursorPlace rows → CursorPlace rows
  | .beforeFirst => .ofNumber 0
  | .on row => .ofNumber (row + 1)
  | .afterLast => .afterLast
  | .closed => .closed

def first : CursorPlace rows → CursorPlace rows
  | .closed => .closed
  | _ => .ofNumber 0

def count : CursorPlace rows → Nat
  | .closed => 0
  | _ => rows.length

def cells : CursorPlace rows → Except Error (List Value)
  | .on row => .ok rows[row]
  | .closed => .error (.storage .cursorClosed)
  | _ => .error (.storage .cursorNotOnRow)

def value (place : CursorPlace rows) (column : Nat) : Except Error Value := do
  let cells ← place.cells
  match cells[column]? with
  | some value => .ok value
  | none => .error (.storage (.columnOutOfRange column))

def integer (place : CursorPlace rows) (column : Nat) : Except Error Int64 := do
  let value ← place.value column
  integerCell column value

def perform (place : CursorPlace rows) : CursorAction → CursorAnswer × CursorPlace rows
  | .next => (.moved place.next.isOnRow, place.next)
  | .first => (.moved place.first.isOnRow, place.first)
  | .count => (.counted place.count, place)
  | .value column => (.value (place.value column), place)
  | .integer column => (.integer (place.integer column), place)
  | .close => (.done, .closed)

variable {place : CursorPlace rows}

/-! ## Rows by number -/

theorem isOnRow_ofNumber (number : Nat) :
    (ofNumber number : CursorPlace rows).isOnRow = decide (number < rows.length) := by
  unfold ofNumber
  by_cases bound : number < rows.length <;> simp [bound, isOnRow]

theorem ofNumber_min (number : Nat) :
    (ofNumber (min number rows.length) : CursorPlace rows) = ofNumber number := by
  unfold ofNumber
  by_cases bound : number < rows.length
  · simp [bound, Nat.min_eq_left (Nat.le_of_lt bound)]
  · simp [bound, Nat.min_eq_right (Nat.le_of_not_lt bound)]

@[simp] theorem isClosed_ofNumber (number : Nat) :
    (ofNumber number : CursorPlace rows).isClosed = false := by
  unfold ofNumber
  split <;> rfl

theorem value_eq_ok {column : Nat} {stored : Value} :
    place.value column = .ok stored ↔
      ∃ cells, place.cells = .ok cells ∧ cells[column]? = some stored := by
  unfold value
  rw [bind_eq_ok]
  refine exists_congr fun cells => and_congr_right fun _ => ?_
  cases cells[column]? <;> simp

theorem cells_ofNumber_eq_ok {number : Nat} {cells : List Value} :
    (ofNumber number : CursorPlace rows).cells = .ok cells ↔ rows[number]? = some cells := by
  unfold ofNumber
  by_cases bound : number < rows.length
  · simp [bound, CursorPlace.cells]
  · simp [bound, CursorPlace.cells]

/-! ## Walks -/

@[simp] theorem isClosed_next (place : CursorPlace rows) :
    place.next.isClosed = place.isClosed := by
  cases place <;> simp only [next, isClosed_ofNumber] <;> rfl

@[simp] theorem isClosed_first (place : CursorPlace rows) :
    place.first.isClosed = place.isClosed := by
  cases place <;> simp only [first, isClosed_ofNumber] <;> rfl

/-- Only closing closes, and nothing opens again. -/
theorem isClosed_perform (place : CursorPlace rows) (action : CursorAction) :
    (place.perform action).2.isClosed = true ↔ place.isClosed = true ∨ .close = action := by
  cases action with
  | next | first | count | value | integer => simp [perform]
  | close => simp [perform, isClosed]

theorem isClosed_runFrom (place : CursorPlace rows) (actions : List CursorAction) :
    (runFrom perform place actions).isClosed = true ↔
      place.isClosed = true ∨ .close ∈ actions := by
  induction actions generalizing place with
  | nil => simp [runFrom]
  | cons action rest ih =>
      rw [runFrom, List.foldl_cons, ← runFrom, ih, isClosed_perform, List.mem_cons, or_assoc]

theorem isOpen_runFrom {actions : List CursorAction} (isOpen : place.isClosed = false)
    (notClose : .close ∉ actions) : (runFrom perform place actions).isClosed = false := by
  rw [← Bool.not_eq_true, isClosed_runFrom, isOpen]
  simpa using notClose

theorem eq_closed (isClosed : place.isClosed = true) : place = .closed := by
  cases place with
  | closed => rfl
  | _ => cases isClosed

theorem count_eq_length (isOpen : place.isClosed = false) : place.count = rows.length := by
  cases place with
  | closed => cases isOpen
  | _ => rfl

theorem first_eq_ofNumber (isOpen : place.isClosed = false) : place.first = .ofNumber 0 := by
  cases place with
  | closed => cases isOpen
  | _ => rfl

/-- The number of the row that the next move leads to, if there is one. -/
def upcoming : CursorPlace rows → Nat
  | .on row => row + 1
  | .afterLast => rows.length
  | .beforeFirst | .closed => 0

theorem upcoming_le (place : CursorPlace rows) : place.upcoming ≤ rows.length := by
  cases place with
  | beforeFirst | closed => exact Nat.zero_le _
  | on row => exact row.isLt
  | afterLast => exact Nat.le_refl _

theorem upcoming_ofNumber (number : Nat) :
    (ofNumber number : CursorPlace rows).upcoming = min (number + 1) rows.length := by
  unfold ofNumber
  split
  all_goals
    simp only [upcoming]
    omega

theorem next_eq_ofNumber (isOpen : place.isClosed = false) :
    place.next = ofNumber place.upcoming := by
  cases place with
  | beforeFirst | on row => rfl
  | afterLast => simp [next, upcoming, ofNumber]
  | closed => cases isOpen

/-- Only the moves to the next row count, as long as the place is not changed otherwise. -/
theorem upcoming_runFrom {actions : List CursorAction} (isOpen : place.isClosed = false)
    (notFirst : .first ∉ actions) (notClose : .close ∉ actions) :
    (runFrom perform place actions).upcoming =
      min (place.upcoming + actions.count .next) rows.length := by
  induction actions generalizing place with
  | nil => simp [runFrom, upcoming_le]
  | cons action rest ih =>
      rw [List.mem_cons, not_or] at notFirst notClose
      have stillOpen : (place.perform action).2.isClosed = false := by
        rw [← Bool.not_eq_true, isClosed_perform, isOpen]
        simpa using notClose.1
      rw [runFrom, List.foldl_cons, ← runFrom, ih stillOpen notFirst.2 notClose.2]
      cases action with
      | next =>
          rw [perform, next_eq_ofNumber isOpen, upcoming_ofNumber, List.count_cons_self]
          omega
      | first => exact absurd rfl notFirst.1
      | close => exact absurd rfl notClose.1
      | count | value | integer => simp [perform]

end CursorPlace

/-! ## Cursors at places -/

namespace ForwardCursor

variable {columns : List String} {rows : List (List Value)} {cursor : ForwardCursor}
  {place : CursorPlace rows}

/-- How the index of a cursor and its rows tell its place. -/
inductive IsAt (columns : List String) : ForwardCursor → CursorPlace rows → Prop where
  | beforeFirst : IsAt columns { columns, rows } .beforeFirst
  | on (row : Fin rows.length) : IsAt columns { columns, rows, position := some row } (.on row)
  | afterLast : IsAt columns { columns, rows, position := some rows.length } .afterLast
  | closed (position : Option Nat) :
      IsAt columns { columns, rows := [], position, isClosed := true } .closed

theorem isAt_ofNumber (columns : List String) (number : Nat) :
    IsAt columns { columns, rows, position := some (min number rows.length) }
      (.ofNumber number : CursorPlace rows) := by
  unfold CursorPlace.ofNumber
  by_cases bound : number < rows.length
  · rw [dif_pos bound, Nat.min_eq_left (Nat.le_of_lt bound)]
    exact .on ⟨number, bound⟩
  · rw [dif_neg bound, Nat.min_eq_right (Nat.le_of_not_lt bound)]
    exact .afterLast

namespace IsAt

theorem next (isAt : IsAt columns cursor place) :
    cursor.next.1 = place.next.isOnRow ∧ IsAt columns cursor.next.2 place.next := by
  cases isAt with
  | beforeFirst => exact ⟨(CursorPlace.isOnRow_ofNumber 0).symm, isAt_ofNumber columns 0⟩
  | on row =>
      exact ⟨(CursorPlace.isOnRow_ofNumber (row + 1)).symm, isAt_ofNumber columns (row + 1)⟩
  | afterLast =>
      have stays : min (rows.length + 1) rows.length = rows.length := by omega
      refine ⟨by simp [ForwardCursor.next, CursorPlace.next, CursorPlace.isOnRow], ?_⟩
      simp only [ForwardCursor.next, stays]
      exact .afterLast
  | closed position =>
      exact ⟨by simp [ForwardCursor.next, CursorPlace.next, CursorPlace.isOnRow], .closed _⟩

theorem first (isAt : IsAt columns cursor place) :
    cursor.first.1 = place.first.isOnRow ∧ IsAt columns cursor.first.2 place.first := by
  have opened : (!rows.isEmpty) = (CursorPlace.ofNumber 0 : CursorPlace rows).isOnRow := by
    rw [CursorPlace.isOnRow_ofNumber]
    cases rows <;> simp
  have arrived := @isAt_ofNumber rows columns 0
  rw [Nat.zero_min] at arrived
  cases isAt with
  | beforeFirst | on | afterLast => exact ⟨opened, arrived⟩
  | closed position => exact ⟨rfl, .closed _⟩

theorem count_eq (isAt : IsAt columns cursor place) : cursor.count = place.count := by
  cases isAt <;> rfl

theorem isClosed_eq (isAt : IsAt columns cursor place) : cursor.isClosed = place.isClosed := by
  cases isAt <;> rfl

theorem value_eq (isAt : IsAt columns cursor place) (column : Nat) :
    cursor.value column = place.value column := by
  cases isAt with
  | beforeFirst | closed => rfl
  | on row =>
      have present : rows[(row : Nat)]? = some rows[row] := List.getElem?_eq_getElem row.isLt
      simp only [ForwardCursor.value, Option.bind_some, present, CursorPlace.value,
        CursorPlace.cells, bind, Except.bind]
      cases rows[row][column]? <;> rfl
  | afterLast =>
      have absent : rows[rows.length]? = none := List.getElem?_eq_none (Nat.le_refl _)
      simp only [ForwardCursor.value, Option.bind_some, absent]
      rfl

theorem integer_eq (isAt : IsAt columns cursor place) (column : Nat) :
    cursor.integer column = place.integer column := by
  rw [ForwardCursor.integer, CursorPlace.integer, isAt.value_eq]

theorem close (isAt : IsAt columns cursor place) :
    IsAt columns cursor.close (.closed : CursorPlace rows) := by
  cases isAt <;> exact .closed _

/-- Every action is answered as the place tells and leaves the cursor at the place that it
leads to. -/
theorem perform (isAt : IsAt columns cursor place) (action : CursorAction) :
    (cursor.perform action).1 = (place.perform action).1 ∧
      IsAt columns (cursor.perform action).2 (place.perform action).2 := by
  cases action with
  | next => exact ⟨congrArg CursorAnswer.moved isAt.next.1, isAt.next.2⟩
  | first => exact ⟨congrArg CursorAnswer.moved isAt.first.1, isAt.first.2⟩
  | count => exact ⟨congrArg CursorAnswer.counted isAt.count_eq, isAt⟩
  | value column => exact ⟨congrArg CursorAnswer.value (isAt.value_eq column), isAt⟩
  | integer column => exact ⟨congrArg CursorAnswer.integer (isAt.integer_eq column), isAt⟩
  | close => exact ⟨rfl, isAt.close⟩

theorem run (isAt : IsAt columns cursor place) (actions : List CursorAction) :
    answers ForwardCursor.perform cursor actions = answers CursorPlace.perform place actions ∧
      IsAt columns (runFrom ForwardCursor.perform cursor actions)
        (runFrom CursorPlace.perform place actions) := by
  induction actions generalizing cursor place with
  | nil => exact ⟨rfl, isAt⟩
  | cons action rest ih =>
      obtain ⟨answered, moved⟩ := isAt.perform action
      obtain ⟨othersAnswered, movedLast⟩ := ih moved
      exact ⟨congrArg₂ List.cons answered othersAnswered, movedLast⟩

theorem position_le (isAt : IsAt columns cursor place) (isOpen : cursor.isClosed = false) :
    ∀ position ∈ cursor.position, position ≤ rows.length := by
  cases isAt with
  | beforeFirst => exact fun _ member => absurd member (Option.not_mem_none _)
  | on row => exact fun _ member => Option.mem_some.mp member ▸ Nat.le_of_lt row.isLt
  | afterLast => exact fun _ member => Option.mem_some.mp member ▸ Nat.le_refl _
  | closed => cases isOpen

/-- A value comes from an open cursor on a row that is long enough, and is that of the row. -/
theorem value_eq_ok (isAt : IsAt columns cursor place) {column : Nat} {stored : Value} :
    cursor.value column = .ok stored ↔ cursor.isClosed = false ∧ ∃ row ∈ cursor.position,
      ∃ cells, rows[row]? = some cells ∧ cells[column]? = some stored := by
  rw [isAt.value_eq, CursorPlace.value_eq_ok]
  cases isAt <;> simp [CursorPlace.cells]

end IsAt

/-! ## Walks over rows -/

/-- The values of the cursor are those of the row of the number, and none if there is no such
row. -/
def ReadsRow (cursor : ForwardCursor) (rows : List (List Value)) (number : Nat) : Prop :=
  ∀ column stored, cursor.value column = .ok stored ↔
    ∃ cells, rows[number]? = some cells ∧ cells[column]? = some stored

/-- The moves to the next row lead over the rows from that of the number on, one after the
other, and over no other once the last of them is left, until the cursor is taken back to the
first row or closed. -/
def Walks (cursor : ForwardCursor) (rows : List (List Value)) (number : Nat) : Prop :=
  ∀ actions : List CursorAction, .first ∉ actions → .close ∉ actions →
    (runFrom perform cursor actions).next.1 =
        decide (number + actions.count .next < rows.length) ∧
      (runFrom perform cursor actions).next.2.ReadsRow rows (number + actions.count .next)

theorem IsAt.readsRow {number : Nat}
    (isAt : IsAt columns cursor (.ofNumber number : CursorPlace rows)) :
    cursor.ReadsRow rows number := by
  intro column stored
  rw [isAt.value_eq, CursorPlace.value_eq_ok]
  exact exists_congr fun cells => and_congr_left fun _ => CursorPlace.cells_ofNumber_eq_ok

theorem IsAt.walks (isAt : IsAt columns cursor place) (isOpen : place.isClosed = false)
    {number : Nat} (upcoming : place.upcoming = min number rows.length) :
    cursor.Walks rows number := by
  intro actions notFirst notClose
  obtain ⟨moved, arrived⟩ := (isAt.run actions).2.next
  have stillOpen := CursorPlace.isOpen_runFrom isOpen notClose
  have reached : (runFrom CursorPlace.perform place actions).next =
      .ofNumber (number + actions.count .next) := by
    have clamped : min (min number rows.length + actions.count .next) rows.length =
        min (number + actions.count .next) rows.length := by omega
    rw [CursorPlace.next_eq_ofNumber stillOpen,
      CursorPlace.upcoming_runFrom isOpen notFirst notClose, upcoming, clamped,
      CursorPlace.ofNumber_min]
  rw [reached] at moved arrived
  exact ⟨moved.trans (CursorPlace.isOnRow_ofNumber _), arrived.readsRow⟩

/-- Whatever is done to a new cursor over rows, it answers as a place among them does. Its moves
to the next row lead over all rows in order, and over all but the first once it has been taken
back to that one. It gives the values of the row that it is on and no others, and once it is
closed there are no rows to it. -/
theorem answers_eq (columns : List String) (rows : List (List Value))
    (actions : List CursorAction) :
    let opened : ForwardCursor := { columns, rows }
    let cursor := runFrom perform opened actions
    answers perform opened actions =
        answers CursorPlace.perform (.beforeFirst : CursorPlace rows) actions ∧
      opened.Walks rows 0 ∧
      (∀ column stored, cursor.value column = .ok stored ↔
        cursor.isClosed = false ∧ ∃ row ∈ cursor.position,
          ∃ cells, rows[row]? = some cells ∧ cells[column]? = some stored) ∧
      (.close ∉ actions → cursor.isClosed = false ∧ cursor.count = rows.length ∧
        (∀ position ∈ cursor.position, position ≤ rows.length) ∧
        cursor.first.1 = decide (0 < rows.length) ∧ cursor.first.2.ReadsRow rows 0 ∧
        cursor.first.2.Walks rows 1) ∧
      (.close ∈ actions → cursor.isClosed = true ∧ cursor.count = 0 ∧
        cursor.next.1 = false ∧ cursor.first.1 = false ∧
        ∀ column, cursor.value column = .error (.storage .cursorClosed) ∧
          cursor.integer column = .error (.storage .cursorClosed)) := by
  intro opened cursor
  have begun : IsAt columns opened (.beforeFirst : CursorPlace rows) := .beforeFirst
  obtain ⟨answered, isAt⟩ := begun.run actions
  refine ⟨answered, begun.walks rfl (Nat.zero_min _).symm, fun _ _ => isAt.value_eq_ok, ?_, ?_⟩
  · intro notClose
    have isOpen := @CursorPlace.isOpen_runFrom rows .beforeFirst actions rfl notClose
    have cursorOpen := isAt.isClosed_eq.trans isOpen
    obtain ⟨moved, arrived⟩ := isAt.first
    rw [CursorPlace.first_eq_ofNumber isOpen] at moved arrived
    exact ⟨cursorOpen, isAt.count_eq.trans (CursorPlace.count_eq_length isOpen),
      isAt.position_le cursorOpen, moved.trans (CursorPlace.isOnRow_ofNumber 0), arrived.readsRow,
      arrived.walks (CursorPlace.isClosed_ofNumber 0) (CursorPlace.upcoming_ofNumber 0)⟩
  · intro isClose
    have isClosed :=
      (@CursorPlace.isClosed_runFrom rows .beforeFirst actions).mpr (.inr isClose)
    rw [CursorPlace.eq_closed isClosed] at isAt
    refine ⟨isAt.isClosed_eq, isAt.count_eq, isAt.next.1, isAt.first.1, fun column => ?_⟩
    exact ⟨isAt.value_eq column, isAt.integer_eq column⟩

/-! ## Two guests -/

def guestRows : List (List Value) := [[.int64 1, .string "Ada"], [.int64 2, .null]]

example :
    answers perform { columns := ["id", "name"], rows := guestRows }
      [.integer 0, .next, .value 1, .next, .integer 0, .next, .next, .value 0, .first, .integer 0,
        .close, .next, .count] =
      [.integer (.error (.storage .cursorNotOnRow)), .moved true, .value (.ok (.string "Ada")),
        .moved true, .integer (.ok 2), .moved false, .moved false,
        .value (.error (.storage .cursorNotOnRow)), .moved true, .integer (.ok 1), .done,
        .moved false, .counted 0] := by
  rfl

theorem answers_eq_guests :
    let opened : ForwardCursor := { columns := ["id", "name"], rows := guestRows }
    opened.Walks guestRows 0 ∧
      (runFrom perform opened [.next, .next, .next]).first.2.Walks guestRows 1 ∧
      (runFrom perform opened [.next, .close, .first]).value 0 =
        .error (.storage .cursorClosed) := by
  obtain ⟨-, walks, -, ofOpen, -⟩ :=
    answers_eq ["id", "name"] guestRows [.next, .next, .next]
  obtain ⟨-, -, -, -, ofClosed⟩ :=
    answers_eq ["id", "name"] guestRows [.next, .close, .first]
  obtain ⟨-, -, -, -, -, walksAgain⟩ := ofOpen (by decide)
  obtain ⟨-, -, -, -, fails⟩ := ofClosed (by decide)
  exact ⟨walks, walksAgain, (fails 0).1⟩

end ForwardCursor

end Persistence
