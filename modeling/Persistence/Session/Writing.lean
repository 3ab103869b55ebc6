import Persistence.Session.Reading
import Persistence.Sql.Change
import Persistence.Sql.Definition

/-!
# Writing through a session

Tables, rows and links changed in storage, and the cache kept in step with the rows.
-/

set_option autoImplicit false

namespace Persistence.Session

open SessionStep

def run (statement : Statement) : SessionStep Nat := execute statement.render

def runAll : List Statement → SessionStep Unit
  | [] => pure ()
  | statement :: rest => do
      let _ ← run statement
      runAll rest

/-! ## Tables -/

/-- Defines the tables of the schema. The answer is the number of statements. -/
def createTables (session : Session) : SessionStep Nat := do
  let names := session.catalog.schema.entityNames
  let statements ← settle (session.catalog.createTables names)
  runAll statements
  pure statements.length

/-- Removes the tables of the schema. The answer is the number of statements. -/
def dropTables (session : Session) : SessionStep Nat := do
  let names := session.catalog.schema.entityNames
  let statements ← settle (session.catalog.dropTables names)
  runAll statements
  pure statements.length

/-! ## Rows -/

/-- Adds the row of a record and caches the record unless its key is still unknown. -/
def save (session : Session) (record : Record) : SessionStep Nat := do
  let statement ← settle (session.catalog.insert record.toInstance)
  let rows ← run statement
  let lacksKey ← settle (session.catalog.lacksKey record.toInstance)
  if lacksKey then pure rows
  else do
    let _ ← session.cache record
    pure rows

/-- Changes the row of a record, if it has more than a key, and caches the record. -/
def update (session : Session) (record : Record) : SessionStep Nat := do
  let statement ← settle (session.catalog.update record.toInstance)
  let rows ← match statement with
    | some statement => run statement
    | none => pure 0
  let _ ← session.cache record
  pure rows

def deleteAllLinks (session : Session) (item : Instance) :
    List Relationship → SessionStep Unit
  | [] => pure ()
  | relationship :: rest => do
      let statement ← settle (session.catalog.deleteLinks relationship item)
      let _ ← run statement
      session.deleteAllLinks item rest

/-- Removes the many-to-many links of a record, its row, and what is cached under its hash. -/
def delete (session : Session) (record : Record) : SessionStep Nat := do
  let item := record.toInstance
  let relationships ← settle (session.catalog.manyToManyRelationships item.entity)
  session.deleteAllLinks item relationships
  let statement ← settle (session.catalog.delete item)
  let rows ← run statement
  let hash ← settle (session.catalog.identityHashOf item)
  forget hash
  pure rows

/-! ## Links -/

/-- Points the foreign keys of related rows at the owner of a one-to-many field. -/
def linkMany (session : Session) (owner : Instance) (field : String)
    (relatedKeys : List Value) : SessionStep Nat := do
  let relationship ← settle (session.catalog.relationship owner.entity field)
  let statement ← settle (session.catalog.updateForeignKeys relationship owner relatedKeys)
  match statement with
  | some statement => run statement
  | none => pure 0

/-- Points the foreign key of a one-to-one field's owner at a related instance. -/
def linkOne (session : Session) (owner : Instance) (field : String) (related : Instance) :
    SessionStep Nat := do
  let relationship ← settle (session.catalog.relationship owner.entity field)
  let statement ← settle (session.catalog.updateOneToOne relationship owner related)
  run statement

/-- Links an instance with the rows of the given keys. The answer is the number of rows
added. -/
def insertLinks (session : Session) (relationship : Relationship) (item : Instance) :
    List Value → SessionStep Nat
  | [] => pure 0
  | key :: rest => do
      let statement ← settle (session.catalog.insertLink relationship item key)
      let rows ← run statement
      let more ← session.insertLinks relationship item rest
      pure (rows + more)

/-- Makes the links of a many-to-many field exactly those to the given keys. The answer is the
number of rows removed and added. -/
def reconcile (session : Session) (item : Instance) (field : String)
    (relatedKeys : List Value) : SessionStep Nat := do
  let relationship ← settle (session.catalog.relationship item.entity field)
  let statement ← settle
    (session.catalog.deleteStaleLinks relationship item relatedKeys)
  let removed ← run statement
  let added ← session.insertLinks relationship item relatedKeys
  pure (removed + added)

end Persistence.Session
