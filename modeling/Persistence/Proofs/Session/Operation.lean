import Persistence.Proofs.Outcome
import Persistence.Session.Writing

/-!
# Session operations

Everything that can be asked of a session, as data, and what a session makes of a list of such
requests: one state after the other, whether a request succeeds or fails.
-/

set_option autoImplicit false

namespace Persistence

inductive SessionOperation where
  | list (query : Query)
  | unique (query : Query)
  | count (query : Query)
  | load (entity : String) (key : Value)
  | loadDeferred (reference : Deferred)
  | related (item : Instance) (field : String)
  | cache (record : Record)
  | isCached (item : Instance)
  | cached (entity : String) (key : Value)
  | clearCache
  | createTables
  | dropTables
  | execute (sql : String)
  | save (record : Record)
  | update (record : Record)
  | delete (record : Record)
  | linkMany (owner : Instance) (field : String) (relatedKeys : List Value)
  | linkOne (owner : Instance) (field : String) (related : Instance)
  | reconcile (item : Instance) (field : String) (relatedKeys : List Value)

inductive SessionAnswer where
  | records (records : List Record)
  | record (found : Option Record)
  | reference (reference : Deferred)
  | number (number : Nat)
  | truth (truth : Bool)
  | done

namespace Session

def perform (session : Session) : SessionOperation → SessionStep SessionAnswer
  | .list query => .records <$> session.list query
  | .unique query => .record <$> session.unique query
  | .count query => .number <$> session.count query
  | .load entity key => .record <$> session.load entity key
  | .loadDeferred reference => .reference <$> session.loadDeferred reference
  | .related item field => .records <$> session.related item field
  | .cache record => .truth <$> session.cache record
  | .isCached item => .truth <$> session.isCached item
  | .cached entity key => .record <$> session.cached? entity key
  | .clearCache => (fun _ => .done) <$> clearCache
  | .createTables => .number <$> session.createTables
  | .dropTables => .number <$> session.dropTables
  | .execute sql => .number <$> SessionStep.execute sql
  | .save record => .number <$> session.save record
  | .update record => .number <$> session.update record
  | .delete record => .number <$> session.delete record
  | .linkMany owner field relatedKeys => .number <$> session.linkMany owner field relatedKeys
  | .linkOne owner field related => .number <$> session.linkOne owner field related
  | .reconcile item field relatedKeys => .number <$> session.reconcile item field relatedKeys

def stateAfter (session : Session) (state : SessionState) :
    List SessionOperation → SessionState
  | [] => state
  | operation :: rest => session.stateAfter (session.perform operation state).2 rest

end Session

theorem SessionStep.map_apply {α β : Type} (translate : α → β) (step : SessionStep α)
    (state : SessionState) :
    (translate <$> step) state = ((step state).1.map translate, (step state).2) :=
  Persistence.map_apply translate step state

theorem SessionStep.map_eq_ok {α β : Type} {translate : α → β} {step : SessionStep α}
    {state after : SessionState} {answer : β} :
    (translate <$> step) state = (.ok answer, after) ↔
      ∃ result, step state = (.ok result, after) ∧ translate result = answer := by
  rw [map_apply]
  constructor
  · intro succeeded
    rcases ended : step state with ⟨outcome, middle⟩
    rw [ended] at succeeded
    cases outcome with
    | error fault => cases succeeded
    | ok result =>
        cases succeeded
        exact ⟨result, rfl, rfl⟩
  · rintro ⟨result, ended, rfl⟩
    rw [ended]
    rfl

end Persistence
