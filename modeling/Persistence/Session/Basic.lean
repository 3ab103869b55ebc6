import Persistence.Session.Cache
import Persistence.Session.Row

/-!
# Sessions

A session works on one storage through a catalog. Its operations are functions on a state
that holds the cache, what storage is going to answer, and the log of everything storage was
asked; the state is there whether an operation succeeds or fails.
-/

set_option autoImplicit false

namespace Persistence

structure ResultSet where
  columns : List String
  rows : List (List Value)
  count : Nat
deriving DecidableEq

def ResultSet.row (result : ResultSet) (cells : List Value) : Row := ⟨result.columns, cells⟩

/-- The first row of the result, one without cells if there is none. -/
def ResultSet.firstRow (result : ResultSet) : Row := result.row (result.rows.headD [])

/-- What storage is going to answer, in order. -/
structure Script where
  /-- Answers to queries: a result, or a failure in words. -/
  results : List (Except String ResultSet) := []
  /-- Answers to other statements: the number of rows changed, or a failure in words. -/
  changes : List (Except String Nat) := []

/-- One thing that happened between a session and its storage. -/
inductive Event where
  /-- A query was sent; it may be sent again if the flag is set. -/
  | query (sql : String) (isCacheable : Bool)
  | execute (sql : String)
  | opened
  | advanced
  | rewound
  | created
  | read
  | closed
deriving DecidableEq, Repr

/-- A session: whatever does not change while it works. -/
structure Session where
  catalog : Catalog
  factory : Factory := .plain

/-- What changes while a session works. -/
structure SessionState where
  cache : Cache Record
  script : Script := {}
  created : Nat := 0
  log : List Event := []

def SessionState.initial (capacity : Nat) (policy : FullPolicy) (script : Script) :
    SessionState :=
  { cache := .empty capacity policy, script }

/-- A step of a session: it may fail, and keeps its changes either way. -/
abbrev SessionStep (α : Type) := ExceptT Error (StateM SessionState) α

namespace SessionStep

def settle {α : Type} (outcome : Except Error α) : SessionStep α := fun state =>
  (outcome, state)

def note (event : Event) : SessionStep Unit := fun state =>
  (.ok (), { state with log := state.log ++ [event] })

/-- Sends a query. Storage without an answer fails. -/
def query (sql : String) (isCacheable : Bool) : SessionStep ResultSet := fun state =>
  let sent := state.log ++ [.query sql isCacheable]
  match state.script.results with
  | [] => (.error (.storage (.reported "no scripted result")), { state with log := sent })
  | answer :: rest =>
      let script := { state.script with results := rest }
      match answer with
      | .error words => (.error (.storage (.reported words)), { state with script, log := sent })
      | .ok result => (.ok result, { state with script, log := sent ++ [.opened] })

/-- Sends a statement without a result. Storage without an answer changes one row. -/
def execute (sql : String) : SessionStep Nat := fun state =>
  let sent := state.log ++ [.execute sql]
  match state.script.changes with
  | [] => (.ok 1, { state with log := sent })
  | answer :: rest =>
      let after := { state with script := { state.script with changes := rest }, log := sent }
      match answer with
      | .error words => (.error (.storage (.reported words)), after)
      | .ok count => (.ok count, after)

/-- Works on an open cursor and closes it afterwards, whether the work succeeds or fails. -/
def closing {α : Type} (work : SessionStep α) : SessionStep α := fun state =>
  let (outcome, after) := work state
  (outcome, { after with log := after.log ++ [.closed] })

def withCursor {α : Type} (sql : String) (isCacheable : Bool)
    (work : ResultSet → SessionStep α) : SessionStep α := do
  let result ← query sql isCacheable
  closing (work result)

def create (factory : Factory) (mapping : Mapping) (row : Row) : SessionStep Record :=
  fun state =>
    let number := state.created + 1
    (factory.create number mapping row,
      { state with created := number, log := state.log ++ [.created] })

/-- Moves from row to row and makes a record of each, until a row gives none or there are no
more rows. -/
def createAll (factory : Factory) (mapping : Mapping) (columns : List String) :
    List (List Value) → SessionStep (List Record)
  | [] => do
      note .advanced
      pure []
  | cells :: rest => do
      note .advanced
      let record ← create factory mapping ⟨columns, cells⟩
      let records ← createAll factory mapping columns rest
      pure (record :: records)

def store (hash : Int32) (record : Record) : SessionStep Bool := fun state =>
  let (isCached, cache) := state.cache.insert hash record
  (.ok isCached, { state with cache })

def lookUp (hash : Int32) : SessionStep (Option Record) := fun state =>
  let (found, cache) := state.cache.get hash
  (.ok found, { state with cache })

def forget (hash : Int32) : SessionStep Unit := fun state =>
  (.ok (), { state with cache := (state.cache.remove hash).2 })

end SessionStep

end Persistence
