import Persistence.Proofs.Session.CacheHistory
import Persistence.Proofs.Session.Freshness

/-!
# Presence in the cache

Every record in the cache of a session is held under its own hash. Whether an instance is
cached is told by its hash alone, but what is given for a key has to be of its identity. The
two agree unless the cache holds another record under the same hash.
-/

set_option autoImplicit false

namespace Persistence

/-! ## Records under their own hashes -/

def Cache.IsByHash (catalog : Catalog) (cache : Cache Record) : Prop :=
  ∀ hash record, cache.value? hash = some record →
    catalog.identityHashOf record.toInstance = .ok hash

namespace CacheEvent

variable {catalog : Catalog} {cache : Cache Record}

theorem isByHash_apply (byHash : cache.IsByHash catalog) (event : CacheEvent) :
    (event.apply catalog cache).IsByHash catalog := by
  intro hash record held
  -- What is held after the event was presented by it under its hash, or was held before.
  rcases held_of_apply held with ⟨-, hashed⟩ | ⟨before, -⟩
  · exact hashed
  · exact byHash hash record before

end CacheEvent

namespace SessionStep

variable {α : Type}

/-- The step keeps the records of the cache under their own hashes, whatever its outcome. -/
def KeepsHashes (catalog : Catalog) (step : SessionStep α) : Prop :=
  ∀ state, state.cache.IsByHash catalog → (step state).2.cache.IsByHash catalog

end SessionStep

namespace Session

open SessionStep

variable {session : Session}

/-! ## Operations -/

theorem keepsHashes_perform (operation : SessionOperation) :
    KeepsHashes session.catalog (session.perform operation) := by
  intro state byHash
  obtain ⟨events, traced⟩ := traces_perform operation state
  rw [traced]
  refine CacheEvent.holds_applyAll ?_ byHash events
  exact fun event _ before => CacheEvent.isByHash_apply before event

def IsReachable (session : Session) (state : SessionState) : Prop :=
  ∃ capacity policy script operations,
    session.stateAfter (.initial capacity policy script) operations = state

theorem isByHash_stateAfter {state : SessionState} (byHash : state.cache.IsByHash session.catalog)
    (operations : List SessionOperation) :
    (session.stateAfter state operations).cache.IsByHash session.catalog := by
  induction operations generalizing state with
  | nil => exact byHash
  | cons operation rest ih => exact ih (keepsHashes_perform operation state byHash)

theorem isByHash_of_isReachable {state : SessionState} (reachable : session.IsReachable state) :
    state.cache.IsByHash session.catalog := by
  obtain ⟨capacity, policy, script, operations, rfl⟩ := reachable
  apply isByHash_stateAfter
  intro hash record held
  cases held

end Session

/-! ## Presence -/

def SessionState.Holds (state : SessionState) (record : Record) : Prop :=
  ∃ hash, state.cache.value? hash = some record

namespace Session

variable {session : Session} {state : SessionState} {item : Instance} {key : Value}

theorem value?_iff_holds (byHash : state.cache.IsByHash session.catalog)
    (keyed : session.catalog.keyValue item = .ok key) (record : Record) :
    state.cache.value? (identityHash item.entity key) = some record ↔
      state.Holds record ∧
        session.catalog.identityHashOf record.toInstance = session.catalog.identityHashOf item := by
  have own : session.catalog.identityHashOf item = .ok (identityHash item.entity key) :=
    Catalog.identityHashOf_eq_ok.mpr ⟨key, keyed, rfl⟩
  rw [own]
  constructor
  · intro held
    exact ⟨⟨_, held⟩, byHash _ record held⟩
  · rintro ⟨⟨hash, held⟩, shared⟩
    have hashed := byHash hash record held
    rw [hashed, Except.ok.injEq] at shared
    rw [← shared]
    exact held

theorem isCached_apply (keyed : session.catalog.keyValue item = .ok key) (state : SessionState) :
    session.isCached item state =
      (.ok (state.cache.contains (identityHash item.entity key)), state) := by
  have own : session.catalog.identityHashOf item = .ok (identityHash item.entity key) :=
    Catalog.identityHashOf_eq_ok.mpr ⟨key, keyed, rfl⟩
  rw [isCached, own]
  rfl

/-- An instance counts as cached if some record with its hash is held, but one is given for its
key only if that record is of its identity. So the two agree exactly if no record of another
identity is held that shares the hash of the instance. -/
theorem isCached_agrees_iff (reachable : session.IsReachable state)
    (keyed : session.catalog.keyValue item = .ok key) :
    (∃ isCached, session.isCached item state = (.ok isCached, state) ∧
        (isCached = true ↔ ∃ record, state.Holds record ∧
          session.catalog.identityHashOf record.toInstance =
            session.catalog.identityHashOf item)) ∧
      ((∃ record, (session.cached? item.entity key state).1 = .ok (some record)) ↔
        ∃ record, state.Holds record ∧
          session.catalog.identityHashOf record.toInstance =
            session.catalog.identityHashOf item ∧
          session.catalog.hasIdentity record.toInstance item.entity key = true) ∧
      (((session.isCached item state).1 = .ok true ↔
          ∃ record, (session.cached? item.entity key state).1 = .ok (some record)) ↔
        ∀ record, state.Holds record →
          session.catalog.identityHashOf record.toInstance =
            session.catalog.identityHashOf item →
          session.catalog.hasIdentity record.toInstance item.entity key = true) := by
  have byHash := isByHash_of_isReachable reachable
  have under := value?_iff_holds byHash keyed
  have present := Cache.contains_eq_true_iff state.cache (identityHash item.entity key)
  have given : ∀ record, (session.cached? item.entity key state).1 = .ok (some record) ↔
      state.cache.value? (identityHash item.entity key) = some record ∧
        session.catalog.hasIdentity record.toInstance item.entity key = true := by
    intro record
    rw [cached?_apply, Except.ok.injEq, Option.filter_eq_some_iff]
  refine ⟨⟨_, isCached_apply keyed state, ?_⟩, ?_, ?_⟩
  · rw [present]
    exact exists_congr under
  · apply exists_congr
    intro record
    rw [given, under, and_assoc]
  · rw [isCached_apply keyed, Except.ok.injEq, present]
    constructor
    · intro agrees record holds shared
      have held := (under record).mpr ⟨holds, shared⟩
      obtain ⟨other, found⟩ := agrees.mp ⟨record, held⟩
      obtain ⟨otherHeld, identified⟩ := (given other).mp found
      rw [held, Option.some.injEq] at otherHeld
      exact otherHeld ▸ identified
    · intro identified
      constructor
      · rintro ⟨record, held⟩
        obtain ⟨holds, shared⟩ := (under record).mp held
        exact ⟨record, (given record).mpr ⟨held, identified record holds shared⟩⟩
      · rintro ⟨record, found⟩
        exact ⟨record, ((given record).mp found).1⟩

/-! ## Letters told apart -/

def draftState : SessionState :=
  letterSession.stateAfter (.initial 1000 .evict {}) [.cache (letter 1 "draft")]

theorem isReachable_draftState : letterSession.IsReachable draftState :=
  ⟨1000, .evict, {}, _, rfl⟩

theorem isCached_agrees_iff_draft :
    letterSession.IsReachable draftState ∧
      letterSession.catalog.keyValue (letter 1 "final").toInstance = .ok (.int64 1) ∧
      (∃ isCached,
        letterSession.isCached (letter 1 "final").toInstance draftState =
            (.ok isCached, draftState) ∧
          (isCached = true ↔ ∃ record, draftState.Holds record ∧
            letterSession.catalog.identityHashOf record.toInstance =
              letterSession.catalog.identityHashOf (letter 1 "final").toInstance)) ∧
      ((∃ record,
          (letterSession.cached? "Letter" (.int64 1) draftState).1 = .ok (some record)) ↔
        ∃ record, draftState.Holds record ∧
          letterSession.catalog.identityHashOf record.toInstance =
            letterSession.catalog.identityHashOf (letter 1 "final").toInstance ∧
          letterSession.catalog.hasIdentity record.toInstance "Letter" (.int64 1) = true) ∧
      (((letterSession.isCached (letter 1 "final").toInstance draftState).1 = .ok true ↔
          ∃ record,
            (letterSession.cached? "Letter" (.int64 1) draftState).1 = .ok (some record)) ↔
        ∀ record, draftState.Holds record →
          letterSession.catalog.identityHashOf record.toInstance =
            letterSession.catalog.identityHashOf (letter 1 "final").toInstance →
          letterSession.catalog.hasIdentity record.toInstance "Letter" (.int64 1) = true) :=
  ⟨isReachable_draftState, rfl, isCached_agrees_iff isReachable_draftState rfl⟩

/-- With one letter cached, a letter counts as cached whose number shares the hash, although
none is given for that number. -/
theorem not_isCached_agrees :
    letterSession.IsReachable draftState ∧
      letterSession.catalog.keyValue (letter 4294967296 "other").toInstance =
        .ok (.int64 4294967296) ∧
      (letterSession.isCached (letter 4294967296 "other").toInstance draftState).1 = .ok true ∧
      (letterSession.cached? "Letter" (.int64 4294967296) draftState).1 = .ok none :=
  ⟨isReachable_draftState, rfl, by decide +kernel, by decide +kernel⟩

end Session

end Persistence
