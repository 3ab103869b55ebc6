import Persistence.Proofs.Session.CacheTrace

/-!
# Cache histories

However the records of a session are made, nothing happens to its cache but events. Which they
are can be told from the answers only if the records are of the entity asked for; that there
are such events needs no assumption, and a property that every event keeps is kept by a session.
-/

set_option autoImplicit false

namespace Persistence

open CacheEvent

/-! ## Events -/

theorem CacheEvent.holds_applyAll {catalog : Catalog} {holds : Cache Record → Prop}
    (kept : ∀ event cache, holds cache → holds (apply catalog cache event))
    {cache : Cache Record} (begun : holds cache) (events : List CacheEvent) :
    holds (applyAll catalog cache events) := by
  induction events generalizing cache with
  | nil => exact begun
  | cons event rest ih => exact ih (kept event cache begun)

/-! ## Steps -/

namespace SessionStep

variable {α β : Type} {catalog : Catalog}

/-- The cache behind the step is the one before it with some events applied, whatever the
outcome. -/
def Traces (catalog : Catalog) (step : SessionStep α) : Prop :=
  ∀ state, ∃ events, (step state).2.cache = applyAll catalog state.cache events

namespace Traces

theorem of_tells {told : α → List CacheEvent} {step : SessionStep α}
    (tells : Tells catalog told step) : Traces catalog step :=
  fun state => ⟨_, tells state⟩

theorem of_keepsCache {step : SessionStep α} (keeps : KeepsCache step) : Traces catalog step :=
  fun state => ⟨[], keeps state⟩

theorem bind {step : SessionStep α} {next : α → SessionStep β} (traces : Traces catalog step)
    (othersTrace : ∀ value, Traces catalog (next value)) : Traces catalog (step >>= next) := by
  intro state
  obtain ⟨first, traced⟩ := traces state
  rcases ended : step state with ⟨outcome, middle⟩
  rw [ended] at traced
  cases outcome with
  | error fault =>
      rw [bind_of_error ended]
      exact ⟨first, traced⟩
  | ok value =>
      rw [bind_of_ok ended]
      obtain ⟨second, rested⟩ := othersTrace value middle
      exact ⟨first ++ second, by rw [rested, traced, applyAll_append]⟩

theorem settle_bind {outcome : Except Error α} {next : α → SessionStep β}
    (othersTrace : ∀ value, Traces catalog (next value)) :
    Traces catalog (settle outcome >>= next) :=
  bind (of_keepsCache (.settle outcome)) othersTrace

end Traces

end SessionStep

namespace Session

open SessionStep

variable {session : Session}

/-! ## Operations -/

-- A list that has been read is presented record by record, until one of them has no hash.
theorem traces_cacheAll_pure {α : Type} (records : List Record) (result : α) :
    Traces session.catalog (session.cacheAll records >>= fun _ => pure result) := by
  refine Traces.bind ?_ fun _ => .of_keepsCache (.pure result)
  induction records with
  | nil => exact .of_keepsCache (.pure ())
  | cons record rest ih => exact (Traces.of_tells (tells_cache record)).bind fun _ => ih

theorem traces_list (query : Query) : Traces session.catalog (session.list query) := by
  refine .settle_bind fun mapping => .settle_bind fun sql => ?_
  exact .bind (.of_keepsCache (.withCursor sql true (keepsCache_readAll mapping)))
    fun records => traces_cacheAll_pure records records

theorem traces_unique (query : Query) : Traces session.catalog (session.unique query) := by
  refine .settle_bind fun mapping => .settle_bind fun sql => ?_
  exact .bind (.of_keepsCache (.withCursor sql true (keepsCache_readOne query.entity mapping)))
    fun found => traces_cacheAll_pure found.toList found

theorem traces_related (item : Instance) (field : String) :
    Traces session.catalog (session.related item field) := by
  refine .settle_bind fun relationship => .settle_bind fun _ => ?_
  refine .settle_bind fun sides => .settle_bind fun statement => .settle_bind fun mapping => ?_
  exact .bind (.of_keepsCache (.withCursor _ true fun _ => .createAll _ _ _ _))
    fun records => traces_cacheAll_pure records records

theorem traces_cached? (entity : String) (key : Value) :
    Traces session.catalog (session.cached? entity key) := by
  intro state
  rw [cached?_apply]
  exact ⟨[.lookedUp entity key], rfl⟩

theorem traces_load (entity : String) (key : Value) :
    Traces session.catalog (session.load entity key) := by
  refine .bind (traces_cached? entity key) fun found => ?_
  cases found with
  | some record => exact .of_keepsCache (.pure (some record))
  | none => exact .settle_bind fun mapping => traces_unique _

theorem traces_loadDeferred (reference : Deferred) :
    Traces session.catalog (session.loadDeferred reference) := by
  unfold loadDeferred Deferred.load
  cases reference.loaded with
  | some record => exact .of_keepsCache (.pure reference)
  | none =>
      exact .bind (traces_load reference.entity reference.key) fun found =>
        .of_keepsCache (.pure { reference with loaded := found })

theorem traces_perform (operation : SessionOperation) :
    Traces session.catalog (session.perform operation) := by
  intro state
  cases operation <;> simp only [perform, SessionStep.map_apply]
  case list query => exact traces_list query state
  case unique query => exact traces_unique query state
  case load entity key => exact traces_load entity key state
  case loadDeferred reference => exact traces_loadDeferred reference state
  case related item field => exact traces_related item field state
  case cached entity key => exact traces_cached? entity key state
  case clearCache => exact ⟨[.cleared], rfl⟩
  case cache record => exact ⟨_, tells_cache record state⟩
  case save record => exact ⟨_, tells_save record state⟩
  case update record => exact ⟨_, tells_update record state⟩
  case delete record => exact ⟨_, tells_delete record state⟩
  case isCached item => exact ⟨[], rfl⟩
  case count query => exact ⟨[], keepsCache_count query state⟩
  case createTables => exact ⟨[], keepsCache_createTables state⟩
  case dropTables => exact ⟨[], keepsCache_dropTables state⟩
  case execute sql => exact ⟨[], KeepsCache.execute sql state⟩
  case linkMany owner field relatedKeys =>
    exact ⟨[], keepsCache_linkMany owner field relatedKeys state⟩
  case linkOne owner field related => exact ⟨[], keepsCache_linkOne owner field related state⟩
  case reconcile item field relatedKeys =>
    exact ⟨[], keepsCache_reconcile item field relatedKeys state⟩

/-- What every event keeps of a cache holds behind any list of operations. -/
theorem holds_stateAfter {holds : Cache Record → Prop}
    (kept : ∀ event cache, holds cache → holds (apply session.catalog cache event))
    {state : SessionState} (begun : holds state.cache) (operations : List SessionOperation) :
    holds (session.stateAfter state operations).cache := by
  induction operations generalizing state with
  | nil => exact begun
  | cons operation rest ih =>
      obtain ⟨events, traced⟩ := traces_perform operation state
      exact ih (traced ▸ holds_applyAll kept begun events)

end Session

end Persistence
