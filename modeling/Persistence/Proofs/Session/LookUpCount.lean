import Persistence.Proofs.Cache.Statistics
import Persistence.Proofs.Session.Freshness

/-!
# Look-ups on record

What the statistics of a session say of its look-ups. The counters are kept by the cache, which
knows hashes only; whether a record is of the identity asked for is seen afterwards. A look-up
that finds a record of another identity is passed over, and still on record as a hit. What the
session serves is therefore counted by the hits exactly where no such look-up happens.
-/

set_option autoImplicit false

namespace Persistence

open SessionStep

/-! ## Calls -/

/-- The identity that an operation looks up, if it looks one up. A reference that is loaded
already has no need to. -/
def SessionOperation.lookUp? : SessionOperation → Option (String × Value)
  | .load entity key | .cached entity key => some (entity, key)
  | .loadDeferred reference =>
      if reference.isLoaded then none else some (reference.entity, reference.key)
  | _ => none

/-- The record that an answer consists of. -/
def SessionAnswer.record? : SessionAnswer → Option Record
  | .record found => found
  | .reference deferred => deferred.loaded
  | _ => none

/-- An operation with the state that it finds. -/
structure SessionCall where
  state : SessionState
  operation : SessionOperation

/-- How many look-ups are on record as hits, and how many as misses. -/
def SessionState.lookUps (state : SessionState) : Nat × Nat :=
  (state.cache.statistics.hits, state.cache.statistics.misses)

namespace Session

/-- Operations performed one after the other, each with the state that it finds. -/
def calls (session : Session) : SessionState → List SessionOperation → List SessionCall
  | _, [] => []
  | state, operation :: rest =>
      ⟨state, operation⟩ :: session.calls (session.perform operation state).2 rest

/-- The record that a call is answered with. -/
def found? (session : Session) (call : SessionCall) : Option Record :=
  match (session.perform call.operation call.state).1 with
  | .ok answer => answer.record?
  | .error _ => none

/-- Whether the call is a look-up that is answered with a record, and asks storage nothing. -/
def isServed (session : Session) (call : SessionCall) : Bool :=
  call.operation.lookUp?.isSome && (session.found? call).isSome &&
    decide ((session.perform call.operation call.state).2.sent = call.state.sent)

def isUnserved (session : Session) (call : SessionCall) : Bool :=
  call.operation.lookUp?.isSome && !session.isServed call

/-- Whether the call is a look-up and the cache holds a record of another identity under the
hash. -/
def findsOther (session : Session) (call : SessionCall) : Bool :=
  match call.operation.lookUp? with
  | some (entity, key) =>
      (call.state.cache.value? (identityHash entity key)).any fun record =>
        !session.catalog.hasIdentity record.toInstance entity key
  | none => false

/-! ## What is served -/

variable {session : Session} {entity : String} {key : Value} {state : SessionState}
  {record : Record}

theorem toOption_join_eq_some {outcome : Except Error (Option Record)} :
    outcome.toOption.join = some record ↔ outcome = .ok (some record) := by
  cases outcome <;> simp [Except.toOption]

/-- What is served is what a look-up for it gives, and a load leaves it at that. -/
theorem load_of_servesFromCache (served : session.ServesFromCache state entity key record) :
    ∃ after, session.cached? entity key state = (.ok (some record), after) ∧
      session.load entity key state = (.ok (some record), after) ∧ after.sent = state.sent := by
  have held := cached_of_servesFromCache served
  have looked := cached?_apply session entity key state
  rw [Option.filter_eq_some_iff.mpr held] at looked
  refine ⟨_, looked, ?_, rfl⟩
  rw [load, bind_of_ok looked]
  rfl

theorem loadDeferred_of_unloaded {reference : Deferred} (unloaded : reference.loaded = none) :
    session.loadDeferred reference =
      (fun found => { reference with loaded := found }) <$>
        session.load reference.entity reference.key := by
  rw [loadDeferred, Deferred.load, unloaded]
  exact bind_pure_comp _ _

/-- A call that looks an identity up asks for what is cached or loads the instance, and answers
with what it gets. -/
theorem lookUp_cases (session : Session) (call : SessionCall)
    (looksUp : call.operation.lookUp? = some (entity, key)) :
    ∃ step, (step = session.cached? entity key ∨ step = session.load entity key) ∧
      session.found? call = (step call.state).1.toOption.join ∧
      (session.perform call.operation call.state).2 = (step call.state).2 := by
  obtain ⟨state, operation⟩ := call
  dsimp only at looksUp
  cases operation with
  | cached entity key =>
      cases looksUp
      refine ⟨_, .inl rfl, ?_⟩
      simp only [found?, perform, map_apply]
      cases (session.cached? entity key state).1 <;> exact ⟨rfl, trivial⟩
  | load entity key =>
      cases looksUp
      refine ⟨_, .inr rfl, ?_⟩
      simp only [found?, perform, map_apply]
      cases (session.load entity key state).1 <;> exact ⟨rfl, trivial⟩
  | loadDeferred reference =>
      rw [SessionOperation.lookUp?] at looksUp
      split at looksUp
      · cases looksUp
      · rename_i unloaded
        cases looksUp
        have absent : reference.loaded = none := by simpa [Deferred.isLoaded] using unloaded
        refine ⟨_, .inr rfl, ?_⟩
        simp only [found?, perform, loadDeferred_of_unloaded absent, map_apply]
        cases (session.load reference.entity reference.key state).1 <;> exact ⟨rfl, trivial⟩
  | _ => cases looksUp

theorem isServed_iff {call : SessionCall}
    (looksUp : call.operation.lookUp? = some (entity, key)) :
    session.isServed call = true ↔
      ∃ record, session.ServesFromCache call.state entity key record := by
  obtain ⟨step, isStep, found, after⟩ := session.lookUp_cases call looksUp
  simp only [isServed, looksUp, Option.isSome_some, Bool.true_and, Bool.and_eq_true,
    decide_eq_true_eq, Option.isSome_iff_exists, found, after, toOption_join_eq_some]
  constructor
  · rintro ⟨⟨record, answered⟩, unsent⟩
    rcases isStep with rfl | rfl
    · exact ⟨record, .inl answered⟩
    · exact ⟨record, .inr ⟨answered, unsent⟩⟩
  · rintro ⟨record, served⟩
    obtain ⟨after, cached, loaded, unsent⟩ := load_of_servesFromCache served
    have answered : step call.state = (.ok (some record), after) := by
      rcases isStep with rfl | rfl
      · exact cached
      · exact loaded
    rw [answered]
    exact ⟨⟨record, rfl⟩, unsent⟩

/-! ## Calls that look nothing up -/

/-- The step adds nothing to the look-ups on record, whatever its outcome. -/
def KeepsLookUps {α : Type} (step : SessionStep α) : Prop := Keeps SessionState.lookUps step

namespace KeepsLookUps

variable {α β : Type}

theorem of_keepsCache {step : SessionStep α} (keeps : KeepsCache step) : KeepsLookUps step :=
  fun state => by rw [SessionState.lookUps, keeps state, SessionState.lookUps]

theorem bind {step : SessionStep α} {next : α → SessionStep β} (keeps : KeepsLookUps step)
    (othersKeep : ∀ value, KeepsLookUps (next value)) : KeepsLookUps (step >>= next) :=
  Keeps.bind SessionState.lookUps keeps othersKeep

theorem settle_bind {outcome : Except Error α} {next : α → SessionStep β}
    (othersKeep : ∀ value, KeepsLookUps (next value)) :
    KeepsLookUps (settle outcome >>= next) :=
  bind (Keeps.settle SessionState.lookUps outcome) othersKeep

theorem cache (record : Record) : KeepsLookUps (session.cache record) := by
  refine settle_bind fun hash state => ?_
  exact congrArg₂ Prod.mk (state.cache.hits_insert hash record)
    (state.cache.inserts hash record).misses

theorem forget (hash : Int32) : KeepsLookUps (forget hash) := by
  intro state
  have kept := state.cache.statistics_drop hash
  exact congrArg₂ Prod.mk (congrArg CacheStatistics.hits kept)
    (congrArg CacheStatistics.misses kept)

theorem cacheAll_pure (records : List Record) (result : α) :
    KeepsLookUps (session.cacheAll records >>= fun _ => pure result) := by
  refine bind ?_ fun _ => of_keepsCache (.pure result)
  induction records with
  | nil => exact of_keepsCache (.pure ())
  | cons record rest ih => exact (cache record).bind fun _ => ih

theorem list (query : Query) : KeepsLookUps (session.list query) := by
  refine settle_bind fun mapping => settle_bind fun sql => ?_
  exact bind (of_keepsCache (.withCursor sql true (keepsCache_readAll mapping)))
    fun records => cacheAll_pure records records

theorem unique (query : Query) : KeepsLookUps (session.unique query) := by
  refine settle_bind fun mapping => settle_bind fun sql => ?_
  exact bind (of_keepsCache (.withCursor sql true (keepsCache_readOne query.entity mapping)))
    fun found => cacheAll_pure found.toList found

theorem related (item : Instance) (field : String) :
    KeepsLookUps (session.related item field) := by
  refine settle_bind fun relationship => settle_bind fun _ => ?_
  refine settle_bind fun sides => settle_bind fun statement => settle_bind fun mapping => ?_
  exact bind (of_keepsCache (.withCursor _ true fun _ => .createAll _ _ _ _))
    fun records => cacheAll_pure records records

theorem save (record : Record) : KeepsLookUps (session.save record) := by
  refine settle_bind fun statement => bind (of_keepsCache (.execute _)) fun rows => ?_
  refine settle_bind fun lacksKey => ?_
  split
  · exact of_keepsCache (.pure rows)
  · exact (cache record).bind fun _ => of_keepsCache (.pure rows)

theorem update (record : Record) : KeepsLookUps (session.update record) := by
  have cached : ∀ rows : Nat, KeepsLookUps (session.cache record >>= fun _ => pure rows) :=
    fun rows => (cache record).bind fun _ => of_keepsCache (.pure rows)
  refine settle_bind fun statement => ?_
  cases statement with
  | none => exact bind (of_keepsCache (.pure 0)) cached
  | some statement => exact bind (of_keepsCache (.execute _)) cached

theorem delete (record : Record) : KeepsLookUps (session.delete record) := by
  refine settle_bind fun relationships =>
    bind (of_keepsCache (keepsCache_deleteAllLinks _ relationships)) fun _ => ?_
  refine settle_bind fun statement => bind (of_keepsCache (.execute _)) fun rows => ?_
  exact settle_bind fun hash => (forget hash).bind fun _ => of_keepsCache (.pure rows)

end KeepsLookUps

theorem lookUps_of_lookUp? {operation : SessionOperation}
    (looksUp : operation.lookUp? = some (entity, key)) :
    (session.perform operation state).2.lookUps =
      ((state.cache.get (identityHash entity key)).2.statistics.hits,
        (state.cache.get (identityHash entity key)).2.statistics.misses) := by
  have looked := cached?_apply session entity key state
  obtain ⟨step, isStep, -, after⟩ := session.lookUp_cases ⟨state, operation⟩ looksUp
  rcases isStep with rfl | rfl
  · rw [after, looked]
    rfl
  · rw [after, load, bind_of_ok looked]
    cases (state.cache.value? (identityHash entity key)).filter fun record =>
        session.catalog.hasIdentity record.toInstance entity key with
    | some record => rfl
    | none => exact KeepsLookUps.settle_bind (fun mapping => .unique _) _

theorem keepsLookUps_perform {operation : SessionOperation} (nothing : operation.lookUp? = none) :
    KeepsLookUps (session.perform operation) := by
  intro state
  cases operation <;> simp only [perform, SessionStep.map_apply]
  case load entity key => cases nothing
  case cached entity key => cases nothing
  case loadDeferred reference =>
    cases present : reference.loaded with
    | none => simp [SessionOperation.lookUp?, Deferred.isLoaded, present] at nothing
    | some record =>
        rw [loadDeferred, Deferred.load, present]
        rfl
  case list query => exact KeepsLookUps.list query state
  case unique query => exact KeepsLookUps.unique query state
  case related item field => exact KeepsLookUps.related item field state
  case cache record => exact KeepsLookUps.cache record state
  case save record => exact KeepsLookUps.save record state
  case update record => exact KeepsLookUps.update record state
  case delete record => exact KeepsLookUps.delete record state
  case isCached item => rfl
  case clearCache => rfl
  case count query => exact KeepsLookUps.of_keepsCache (keepsCache_count query) state
  case createTables => exact KeepsLookUps.of_keepsCache keepsCache_createTables state
  case dropTables => exact KeepsLookUps.of_keepsCache keepsCache_dropTables state
  case execute sql => exact KeepsLookUps.of_keepsCache (.execute sql) state
  case linkMany owner field relatedKeys =>
    exact KeepsLookUps.of_keepsCache (keepsCache_linkMany owner field relatedKeys) state
  case linkOne owner field related =>
    exact KeepsLookUps.of_keepsCache (keepsCache_linkOne owner field related) state
  case reconcile item field relatedKeys =>
    exact KeepsLookUps.of_keepsCache (keepsCache_reconcile item field relatedKeys) state

/-! ## What is on record -/

theorem isServed_eq {call : SessionCall} (looksUp : call.operation.lookUp? = some (entity, key)) :
    session.isServed call =
      (call.state.cache.value? (identityHash entity key)).any fun record =>
        session.catalog.hasIdentity record.toInstance entity key := by
  rw [Bool.eq_iff_iff, isServed_iff looksUp]
  simp only [servesFromCache_iff, Option.any_eq_true]

/-- A look-up is on record as a hit if it is served or finds another identity, and as a miss
otherwise. -/
theorem lookUps_perform (session : Session) (state : SessionState)
    (operation : SessionOperation) :
    let call : SessionCall := ⟨state, operation⟩
    let before := state.lookUps
    let after := (session.perform operation state).2.lookUps
    after.1 = before.1 + (session.isServed call).toNat + (session.findsOther call).toNat ∧
      after.2 + (session.findsOther call).toNat =
        before.2 + (session.isUnserved call).toNat := by
  intro call before after
  cases looksUp : operation.lookUp? with
  | none =>
      have kept : after = before := keepsLookUps_perform looksUp state
      simp [isServed, isUnserved, findsOther, call, looksUp, kept]
  | some identity =>
      obtain ⟨entity, key⟩ := identity
      have served : session.isServed call = _ := isServed_eq looksUp
      have counted : after = _ := lookUps_of_lookUp? looksUp
      rw [counted, Cache.statistics_get, Cache.contains_eq]
      simp only [isUnserved, findsOther, served, call, looksUp, Option.isSome_some]
      cases state.cache.value? (identityHash entity key) with
      | none => simp [before, SessionState.lookUps]
      | some record =>
          cases identified : session.catalog.hasIdentity record.toInstance entity key <;>
            simp [identified, before, SessionState.lookUps]

theorem lookUps_stateAfter (session : Session) (state : SessionState)
    (operations : List SessionOperation) :
    let before := state.lookUps
    let after := (session.stateAfter state operations).lookUps
    let calls := session.calls state operations
    after.1 = before.1 + calls.countP session.isServed + calls.countP session.findsOther ∧
      after.2 + calls.countP session.findsOther =
        before.2 + calls.countP session.isUnserved := by
  induction operations generalizing state with
  | nil => exact ⟨rfl, rfl⟩
  | cons operation rest ih =>
      obtain ⟨hits, misses⟩ := session.lookUps_perform state operation
      obtain ⟨otherHits, otherMisses⟩ := ih (session.perform operation state).2
      simp only [calls, stateAfter, Cache.countP_cons_toNat]
      omega

/-- In a new session the hits on record are the look-ups that were served, and those that found a
record of another identity under the hash; the misses are the other look-ups. Hits and misses
tell what was served and what was not exactly where no look-up has found another identity. -/
theorem lookUps_initial (session : Session) (capacity : Nat) (policy : FullPolicy)
    (script : Script) (operations : List SessionOperation) :
    let state := SessionState.initial capacity policy script
    let calls := session.calls state operations
    let statistics := (session.stateAfter state operations).cache.statistics
    statistics.hits = calls.countP session.isServed + calls.countP session.findsOther ∧
      statistics.misses + calls.countP session.findsOther = calls.countP session.isUnserved ∧
      (statistics.hits = calls.countP session.isServed ∧
          statistics.misses = calls.countP session.isUnserved ↔
        ∀ call ∈ calls, session.findsOther call = false) := by
  intro state calls statistics
  obtain ⟨counted, others⟩ := session.lookUps_stateAfter state operations
  have hits : statistics.hits =
      calls.countP session.isServed + calls.countP session.findsOther := by
    rw [show state.lookUps.1 = 0 from rfl, Nat.zero_add] at counted
    exact counted
  have misses : statistics.misses + calls.countP session.findsOther =
      calls.countP session.isUnserved := by
    rw [show state.lookUps.2 = 0 from rfl, Nat.zero_add] at others
    exact others
  have noOther : (∀ call ∈ calls, session.findsOther call = false) ↔
      calls.countP session.findsOther = 0 := by
    simp only [List.countP_eq_zero, Bool.not_eq_true]
  refine ⟨hits, misses, ?_⟩
  rw [noOther]
  omega

/-- A letter is cached, and one that shares its hash is asked for. -/
theorem not_lookUps_letter :
    let operations : List SessionOperation :=
      [.cache (letter 1 "draft"), .cached "Letter" (.int64 4294967296)]
    let state := SessionState.initial 1000 .evict {}
    let calls := letterSession.calls state operations
    let statistics := (letterSession.stateAfter state operations).cache.statistics
    ¬ (statistics.hits = calls.countP letterSession.isServed ∧
      statistics.misses = calls.countP letterSession.isUnserved) := by
  decide

end Session

end Persistence
