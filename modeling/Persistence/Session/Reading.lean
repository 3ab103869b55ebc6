import Persistence.Instance.Deferred
import Persistence.Query
import Persistence.Session.Basic
import Persistence.Sql.Linking

/-!
# Reading through a session

Queries and their answers as records, and instances by their keys. Every record that a
session reads is put into its cache once all rows of the result have been read.
-/

set_option autoImplicit false

namespace Persistence.Session

open SessionStep

/-! ## The cache -/

/-- Puts a record into the cache. The answer is whether it is there afterwards. -/
def cache (session : Session) (record : Record) : SessionStep Bool := do
  let hash ← settle (session.catalog.identityHashOf record.toInstance)
  store hash record

def cacheAll (session : Session) : List Record → SessionStep Unit
  | [] => pure ()
  | record :: rest => do
      let _ ← session.cache record
      session.cacheAll rest

def isCached (session : Session) (item : Instance) : SessionStep Bool := fun state =>
  ((session.catalog.identityHashOf item).map state.cache.contains, state)

/-- The cached record of an identity. What is cached under the same hash without being of that
identity is passed over. -/
def cached? (session : Session) (entity : String) (key : Value) :
    SessionStep (Option Record) := do
  let found ← lookUp (identityHash entity key)
  pure (found.filter fun record => session.catalog.hasIdentity record.toInstance entity key)

def clearCache : SessionStep Unit := fun state =>
  (.ok (), { state with cache := state.cache.clear })

/-! ## Queries -/

def selectText (session : Session) (query : Query) : Except Error String :=
  (session.catalog.select query).map Statement.render

def list (session : Session) (query : Query) : SessionStep (List Record) := do
  let mapping ← settle (session.catalog.mapping query.entity)
  let sql ← settle (session.selectText query)
  let records ← withCursor sql true fun result =>
    if result.count = 0 then pure []
    else createAll session.factory mapping result.columns result.rows
  session.cacheAll records
  pure records

/-- The record of the only row of a query, nothing if there is no row. -/
def unique (session : Session) (query : Query) : SessionStep (Option Record) := do
  let mapping ← settle (session.catalog.mapping query.entity)
  let sql ← settle (session.selectText query)
  let found ← withCursor sql true fun result =>
    match result.count with
    | 0 => pure none
    | 1 => do
        note .rewound
        let record ← create session.factory mapping result.firstRow
        pure (some record)
    | several => settle (.error (.nonUniqueResult query.entity several))
  session.cacheAll found.toList
  pure found

/-- The number of rows that a query reports. A result without rows reports none. -/
def count (session : Session) (query : Query) : SessionStep Nat := do
  let statement ← settle (session.catalog.count query)
  withCursor statement.render false fun result => do
    note .rewound
    if result.rows.isEmpty then pure 0
    else do
      note .read
      let number ← settle (result.firstRow.integer 0)
      if number.toInt < 0 then settle (.error (.row (.negativeCount number.toInt)))
      else pure number.toInt.toNat

/-! ## Instances -/

/-- The instance of an entity with a key, from the cache if it is there. -/
def load (session : Session) (entity : String) (key : Value) :
    SessionStep (Option Record) := do
  match ← session.cached? entity key with
  | some record => pure (some record)
  | none => do
      let mapping ← settle (session.catalog.mapping entity)
      session.unique { entity, criteria := [.compare mapping.key.name .equal key] }

def loadDeferred (session : Session) (reference : Deferred) : SessionStep Deferred :=
  reference.load session.load

/-- The instances that a many-to-many field of an instance links it with. -/
def related (session : Session) (item : Instance) (field : String) :
    SessionStep (List Record) := do
  let relationship ← settle (session.catalog.relationship item.entity field)
  settle (relationship.requireCardinality .manyToMany)
  let (own, other) ← settle (relationship.sides item.entity)
  let statement ← settle
    (Catalog.selectLinked relationship (item.value own.field) other.entity)
  let mapping ← settle (session.catalog.mapping other.entity)
  let records ← withCursor statement.render true fun result =>
    createAll session.factory mapping result.columns result.rows
  session.cacheAll records
  pure records

/-! ## Display -/

/-- The session for display: how much it caches. -/
def display (state : SessionState) : String :=
  "Session \x7b cached: " ++ toString state.cache.size ++ ", capacity: " ++
    toString state.cache.capacity ++ " \x7d"

end Persistence.Session
