import Mathlib.Data.List.Forall2
import Persistence.Dialect
import Persistence.Sql.Statement

/-!
# Effects of statements

What SQL says that statements on links do to tables. What is compared with null is neither the
same nor different, and a statement removes a row only if its conditions are certain. Other
statements have no effect here, and neither have those with a float that no literal spells.
-/

set_option autoImplicit false

namespace Persistence

/-! ## Truth -/

/-- What SQL makes of a condition. -/
inductive Truth where
  | no
  | unknown
  | yes
deriving DecidableEq, Repr

namespace Truth

def not : Truth → Truth
  | .no => .yes
  | .unknown => .unknown
  | .yes => .no

def or : Truth → Truth → Truth
  | .yes, _ => .yes
  | _, .yes => .yes
  | .no, .no => .no
  | _, _ => .unknown

theorem not_eq_yes {truth : Truth} : truth.not = .yes ↔ truth = .no := by
  cases truth <;> decide

theorem or_eq_no {left right : Truth} : left.or right = .no ↔ left = .no ∧ right = .no := by
  cases left <;> cases right <;> decide

end Truth

/-! ## Cells -/

def Decimal.toRat (decimal : Decimal) : Rat :=
  let magnitude :=
    Rat.ofScientific decimal.coefficient (decide (decimal.exponent < 0)) decimal.exponent.natAbs
  if decimal.negative then magnitude.neg else magnitude

/-- What a table holds in a row and a column. -/
inductive Cell where
  | null
  | number (value : Rat)
  | text (contents : String)
  | blob (contents : List UInt8)
deriving DecidableEq

/-- What a literal stands for. The names of floats that are no finite numbers are no literals. -/
def Literal.cell? : Literal → Option Cell
  | .null => some .null
  | .integer value => some (.number (Rat.ofInt value))
  | .real (.finite decimal) => some (.number decimal.toRat)
  | .real _ => none
  | .text contents => some (.text contents)
  | .blob contents => some (.blob contents)

namespace Cell

def equal (left right : Cell) : Truth :=
  if left = .null ∨ right = .null then .unknown
  else if left = right then .yes
  else .no

def isAmong (cell : Cell) (others : List Cell) : Truth :=
  others.foldr (fun other truth => (cell.equal other).or truth) .no

variable {left right : Cell}

theorem equal_eq_yes : left.equal right = .yes ↔ left = right ∧ left ≠ .null := by
  unfold equal
  constructor
  · intro equal
    split at equal
    · cases equal
    · rename_i known
      split at equal
      · rename_i same
        exact ⟨same, fun null => known (.inl null)⟩
      · cases equal
  · rintro ⟨rfl, known⟩
    rw [if_neg (by simpa using known), if_pos rfl]

theorem equal_self (known : left ≠ .null) : left.equal left = .yes :=
  equal_eq_yes.mpr ⟨rfl, known⟩

theorem equal_eq_unknown : left.equal right = .unknown ↔ left = .null ∨ right = .null := by
  unfold equal
  constructor
  · intro unknown
    split at unknown
    · assumption
    · split at unknown <;> cases unknown
  · intro null
    rw [if_pos null]

theorem isAmong_eq_no {cell : Cell} {others : List Cell} :
    cell.isAmong others = .no ↔ ∀ other ∈ others, cell.equal other = .no := by
  induction others with
  | nil => simp [isAmong]
  | cons first rest ih =>
      rw [List.forall_mem_cons, ← ih]
      exact Truth.or_eq_no

theorem isAmong_ne_no_of_null {others : List Cell} (some : others ≠ []) :
    Cell.null.isAmong others ≠ .no := by
  intro apart
  obtain ⟨first, rest, rfl⟩ := List.exists_cons_of_ne_nil some
  have different := isAmong_eq_no.mp apart first List.mem_cons_self
  rw [equal_eq_unknown.mpr (.inl rfl)] at different
  cases different

theorem exists_equal_of_isAmong_ne_no {cell : Cell} {others : List Cell}
    (near : cell.isAmong others ≠ .no) (known : cell ≠ .null)
    (othersKnown : .null ∉ others) : ∃ other ∈ others, cell.equal other = .yes := by
  by_contra none
  refine near (isAmong_eq_no.mpr fun other member => ?_)
  have otherKnown : other ≠ .null := by
    rintro rfl
    exact othersKnown member
  cases compared : cell.equal other with
  | no => rfl
  | unknown => exact absurd (equal_eq_unknown.mp compared) (by simp [known, otherKnown])
  | yes => exact absurd ⟨other, member, compared⟩ none

end Cell

/-! ## Tables -/

/-- A row of a table by the names of its columns. -/
abbrev TableRow := String → Cell

abbrev Tables := String → List TableRow

namespace TableRow

def ofColumns (columns : List String) (cells : List Cell) : TableRow := fun column =>
  ((columns.zip cells).lookup column).getD .null

/-- Adds the row unless there is one already with the same in the given columns. -/
def addTo (columns : List String) (row : TableRow) (rows : List TableRow) : List TableRow :=
  if rows.any fun other => columns.all fun column => (other column).equal (row column) == .yes
  then rows
  else rows ++ [row]

end TableRow

def Condition.test? : Condition → Option (TableRow → Truth)
  | .compare column .equal value => do
      let cell ← value.cell?
      some fun row => (row column).equal cell
  | .isNotIn column values => do
      let cells ← values.mapM Literal.cell?
      some fun row => ((row column).isAmong cells).not
  | _ => none

/-- Removes the rows that certainly meet all of the conditions. -/
def TableRow.removeFrom (tests : List (TableRow → Truth)) (rows : List TableRow) :
    List TableRow :=
  rows.filter fun row => !tests.all fun test => test row == .yes

/-- The table that a statement changes and what it makes of its rows. -/
def Statement.change? (dialect : Dialect) :
    Statement → Option (String × (List TableRow → List TableRow))
  | .delete table conditions => do
      let tests ← conditions.mapM Condition.test?
      some (table, TableRow.removeFrom tests)
  | .insert opening table columns values => do
      let cells ← values.mapM Literal.cell?
      if opening = dialect.insertOrIgnore then
        some (table, TableRow.addTo columns (.ofColumns columns cells))
      else none
  | _ => none

namespace Statement

def after? (dialect : Dialect) (statement : Statement) (tables : Tables) : Option Tables := do
  let (table, change) ← statement.change? dialect
  some fun name => if name = table then change (tables name) else tables name

def afterAll? (dialect : Dialect) : List Statement → Tables → Option Tables
  | [], tables => some tables
  | statement :: rest, tables => do
      let changed ← statement.after? dialect tables
      afterAll? dialect rest changed

/-- Statements that change one table have their effects on its rows one after the other, and
leave all other tables alone. -/
theorem afterAll?_of_changes {dialect : Dialect} {table : String} {statements : List Statement}
    {changes : List (List TableRow → List TableRow)}
    (changed : List.Forall₂
      (fun statement change => statement.change? dialect = some (table, change))
      statements changes) (before : Tables) :
    ∃ after, afterAll? dialect statements before = some after ∧
      after table = changes.foldl (fun rows change => change rows) (before table) ∧
      ∀ other, other ≠ table → after other = before other := by
  induction changed generalizing before with
  | nil => exact ⟨before, rfl, rfl, fun _ _ => rfl⟩
  | @cons statement change statements changes first _ ih =>
      have applied : statement.after? dialect before =
          some fun name => if name = table then change (before name) else before name := by
        rw [after?, first]
        rfl
      obtain ⟨after, othersApplied, changed, kept⟩ :=
        ih fun name => if name = table then change (before name) else before name
      refine ⟨after, ?_, ?_, ?_⟩
      · rw [afterAll?, applied]
        exact othersApplied
      · rw [changed, if_pos rfl]
        rfl
      · intro other different
        rw [kept other different, if_neg different]

end Statement

end Persistence
