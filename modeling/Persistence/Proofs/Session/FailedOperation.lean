import Persistence.Proofs.Session.Freshness

/-!
# Failed operations

What a failed operation leaves in the cache: all that was there. Records are presented, and
dropped, only when nothing can fail any more; until then an operation has at most looked an
identity up, which changes when an entry was used and what has been counted, but no entry.
-/

set_option autoImplicit false

namespace Persistence

/-! ## What is told of failures -/

theorem CacheEvent.ofOutcome_of_failed {α β : Type} {told : α → List CacheEvent}
    {translate : α → β} {outcome : Except Error α} {fault : Error}
    (failed : outcome.map translate = .error fault) : ofOutcome told outcome = [] := by
  cases outcome with
  | error reported => rfl
  | ok result => cases failed

namespace Session

open SessionStep CacheEvent

variable {session : Session} {state after : SessionState} {operation : SessionOperation}
  {fault : Error}

theorem loadEvents_of_failed {entity : String} {key : Value}
    (failed : (session.load entity key state).1 = .error fault) :
    session.loadEvents entity key state = [.lookedUp entity key] := by
  unfold loadEvents
  rw [failed]
  split <;> rfl

theorem load_of_failed_loadDeferred {reference : Deferred}
    (failed : (session.loadDeferred reference state).1 = .error fault) :
    reference.isLoaded = false ∧
      (session.load reference.entity reference.key state).1 = .error fault := by
  unfold loadDeferred Deferred.load at failed
  cases present : reference.loaded with
  | some record =>
      rw [present] at failed
      cases failed
  | none =>
      refine ⟨by rw [Deferred.isLoaded, present]; rfl, ?_⟩
      rw [present] at failed
      dsimp only at failed
      rcases ended : session.load reference.entity reference.key state with ⟨outcome, middle⟩
      cases outcome with
      | error reported =>
          rw [bind_of_error ended] at failed
          cases failed
          rfl
      | ok found =>
          rw [bind_of_ok ended] at failed
          cases failed

/-- A failed operation has done nothing to the cache but look up what it was to load. -/
theorem events_of_failed (failed : (session.perform operation state).1 = .error fault) :
    session.events state operation = [] ∨
      ∃ entity key, session.events state operation = [.lookedUp entity key] := by
  cases operation <;> simp only [perform, SessionStep.map_apply] at failed
  case load entity key =>
    cases ended : (session.load entity key state).1 with
    | error reported => exact .inr ⟨entity, key, loadEvents_of_failed ended⟩
    | ok found =>
        rw [ended] at failed
        cases failed
  case loadDeferred reference =>
    cases ended : (session.loadDeferred reference state).1 with
    | error reported =>
        obtain ⟨unloaded, loadFailed⟩ := load_of_failed_loadDeferred ended
        refine .inr ⟨reference.entity, reference.key, ?_⟩
        rw [events, unloaded, if_neg Bool.false_ne_true, loadEvents_of_failed loadFailed]
    | ok loaded =>
        rw [ended] at failed
        cases failed
  case cached entity key => exact .inr ⟨entity, key, rfl⟩
  case clearCache => cases failed
  -- Every other operation tells what it does by its result, or does nothing.
  all_goals exact .inl (by first | rfl | exact ofOutcome_of_failed failed)

/-! ## The cache behind a failure -/

/-- After a failed operation every hash has the record that it had before. The cache is the
same but for one look-up that may have been noted. -/
theorem value?_of_failed (keepsEntity : session.factory.KeepsEntity)
    (failed : session.perform operation state = (.error fault, after)) :
    after.cache.value? = state.cache.value? ∧
      (after.cache = state.cache ∨
        ∃ entity key, after.cache = (state.cache.get (identityHash entity key)).2) := by
  have told := cache_perform keepsEntity state operation
  rw [failed] at told
  dsimp only at told
  rcases events_of_failed (congrArg Prod.fst failed) with none | ⟨entity, key, looked⟩
  · rw [none] at told
    exact ⟨congrArg Cache.value? told, .inl told⟩
  · rw [looked] at told
    refine ⟨?_, .inr ⟨entity, key, told⟩⟩
    funext hash
    rw [told]
    exact Cache.value?_get _ _ hash

/-! ## A reply that cannot be read -/

/-- A letter is cached, and storage is going to answer with a reply and with a row that has no
cells. -/
def replyState : SessionState :=
  letterSession.stateAfter
    (.initial 1000 .evict
      { results := [.ok ⟨["id", "text"], [[.int64 2, .string "reply"], []], 2⟩] })
    [.cache (letter 1 "draft")]

theorem value?_of_failed_reply :
    ∃ after, letterSession.perform (.list { entity := "Letter" }) replyState =
        (.error (.row (.missingCell 0)), after) ∧
      letterSession.factory.KeepsEntity ∧
      replyState.cache.value? (identityHash "Letter" (.int64 1)) = some (letter 1 "draft") ∧
      after.cache.value? = replyState.cache.value? ∧
      (after.cache = replyState.cache ∨
        ∃ entity key, after.cache = (replyState.cache.get (identityHash entity key)).2) := by
  have failed : ∃ after, letterSession.perform (.list { entity := "Letter" }) replyState =
      (.error (.row (.missingCell 0)), after) := ⟨_, rfl⟩
  obtain ⟨after, failed⟩ := failed
  exact ⟨after, failed, Factory.keepsEntity_plain, by decide +kernel,
    value?_of_failed Factory.keepsEntity_plain failed⟩

end Session

end Persistence
