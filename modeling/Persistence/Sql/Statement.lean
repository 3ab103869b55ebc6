import Persistence.Sql.Literal

/-!
# Statements

SQL statements as trees and their text. Names are written as they are; nothing in a name
is quoted.
-/

set_option autoImplicit false

namespace Persistence

inductive Comparison where
  | equal
  | notEqual
  | less
  | lessOrEqual
  | greater
  | greaterOrEqual
deriving DecidableEq, Repr

def Comparison.symbol : Comparison → String
  | .equal => "="
  | .notEqual => "<>"
  | .less => "<"
  | .lessOrEqual => "<="
  | .greater => ">"
  | .greaterOrEqual => ">="

inductive Condition where
  | compare (column : String) (comparison : Comparison) (value : Literal)
  | between (column : String) (low high : Literal)
  | isIn (column : String) (values : List Literal)
  | isNotIn (column : String) (values : List Literal)
  | like (column : String) (pattern : Literal)
  | isNull (column : String)
  | isNotNull (column : String)
  | both (left right : Condition)
  | either (left right : Condition)
  /-- A condition given as text. -/
  | verbatim (text : String)
deriving DecidableEq, Repr

namespace Condition

/-- The condition as written. Only a pair of conditions is put in parentheses. -/
def render : Condition → String
  | .compare column comparison value =>
      column ++ " " ++ comparison.symbol ++ " " ++ value.render
  | .between column low high =>
      column ++ " BETWEEN " ++ low.render ++ " AND " ++ high.render
  | .isIn column values => column ++ " IN " ++ Literal.renderList values
  | .isNotIn column values => column ++ " NOT IN " ++ Literal.renderList values
  | .like column pattern => column ++ " LIKE " ++ pattern.render
  | .isNull column => column ++ " IS NULL"
  | .isNotNull column => column ++ " IS NOT NULL"
  | .both left right => "(" ++ left.render ++ " AND " ++ right.render ++ ")"
  | .either left right => "(" ++ left.render ++ " OR " ++ right.render ++ ")"
  | .verbatim text => text

/-- The clause that restricts a statement to rows meeting all conditions, nothing if there
are none. -/
def renderWhere (conditions : List Condition) : String :=
  match conditions with
  | [] => ""
  | _ => " WHERE " ++ Text.joinWith " AND " (conditions.map render)

end Condition

/-- What a column definition says beyond name and type. -/
inductive ColumnConstraint where
  | primaryKey
  | generated (keyword : String)
  | notNull
  | unique
deriving DecidableEq, Repr

def ColumnConstraint.render : ColumnConstraint → String
  | .primaryKey => "PRIMARY KEY"
  | .generated keyword => keyword
  | .notNull => "NOT NULL"
  | .unique => "UNIQUE"

structure ColumnDefinition where
  name : String
  type : String
  constraints : List ColumnConstraint := []
deriving DecidableEq, Repr

def ColumnDefinition.render (column : ColumnDefinition) : String :=
  Text.joinWith " " (column.name :: column.type :: column.constraints.map ColumnConstraint.render)

inductive Projection where
  /-- Every column of every row. -/
  | rows
  | rowCount
deriving DecidableEq, Repr

def Projection.render : Projection → String
  | .rows => "*"
  | .rowCount => "count(*)"

/-- A part of the rows of a result. -/
structure Page where
  limit : Nat
  offset : Nat
deriving DecidableEq, Repr

def Page.render (page : Page) : String :=
  " LIMIT " ++ toString page.limit ++ " OFFSET " ++ toString page.offset

/-- A table linked through a join table. -/
structure LinkedTable where
  table : String
  column : String
  joinColumn : String
deriving DecidableEq, Repr

inductive Statement where
  /-- Defines a table unless it exists. Join tables have a key of two columns. -/
  | createTable (table : String) (columns : List ColumnDefinition)
      (jointKey : Option (String × String))
  | dropTable (table : String)
  | select (projection : Projection) (table : String) (conditions : List Condition)
      (page : Option Page)
  /-- Reads the rows of `selected` that `joinTable` links with the row of `anchor` whose linked
  column is `key`. `selectedFirst` is the order in which the two tables are named. -/
  | selectLinked (selectedFirst : Bool) (selected anchor : LinkedTable) (joinTable : String)
      (key : Literal)
  | insert (opening table : String) (columns : List String) (values : List Literal)
  | update (table : String) (assignments : List (String × Literal)) (condition : Condition)
  | delete (table : String) (conditions : List Condition)
deriving DecidableEq, Repr

namespace Statement

/-- The two tables of a linked selection, named in order, with their aliases. -/
def renderLinkedTables (selectedFirst : Bool) (selected anchor : LinkedTable) : String :=
  let selectedPart := selected.table ++ " x"
  let anchorPart := anchor.table ++ " y"
  if selectedFirst then selectedPart ++ ", " ++ anchorPart
  else anchorPart ++ ", " ++ selectedPart

/-- The statement as written, without an end mark. -/
def render : Statement → String
  | .createTable table columns jointKey =>
      let keyPart := match jointKey with
        | none => []
        | some (first, second) => ["PRIMARY KEY " ++ Text.parenthesized [first, second]]
      "CREATE TABLE IF NOT EXISTS " ++ table ++ " " ++
        Text.parenthesized (columns.map ColumnDefinition.render ++ keyPart)
  | .dropTable table => "DROP TABLE IF EXISTS " ++ table
  | .select projection table conditions page =>
      "SELECT " ++ projection.render ++ " FROM " ++ table ++
        Condition.renderWhere conditions ++ (page.map Page.render).getD ""
  | .selectLinked selectedFirst selected anchor joinTable key =>
      "SELECT x.* FROM " ++ renderLinkedTables selectedFirst selected anchor ++ ", " ++
        joinTable ++ " z WHERE z." ++ selected.joinColumn ++ " = x." ++ selected.column ++
        " AND z." ++ anchor.joinColumn ++ " = y." ++ anchor.column ++
        " AND y." ++ anchor.column ++ " = " ++ key.render
  | .insert opening table columns values =>
      opening ++ " " ++ table ++ " " ++ Text.parenthesized columns ++ " VALUES " ++
        Literal.renderList values
  | .update table assignments condition =>
      "UPDATE " ++ table ++ " SET " ++
        Text.joinWith ", " (assignments.map fun (column, value) =>
          column ++ " = " ++ value.render) ++
        " WHERE " ++ condition.render
  | .delete table conditions => "DELETE FROM " ++ table ++ Condition.renderWhere conditions

end Statement

end Persistence
