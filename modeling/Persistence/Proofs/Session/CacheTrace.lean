import Persistence.Proofs.Cache.LookUp
import Persistence.Proofs.Catalog.Resolution
import Persistence.Proofs.Session.Materialization
import Persistence.Proofs.Session.Operation

/-!
# What a session does to its cache

The cache of a session changes in four ways: a record is presented to it, what is cached for a
deleted record is dropped, everything is dropped, or an identity is looked up. Which of these
an operation does can be told from its answer, and the cache behind it is the one before it
with these events applied.
-/

set_option autoImplicit false

namespace Persistence

/-! ## Events -/

/-- Something that a session does to its cache. -/
inductive CacheEvent where
  /-- A record is presented to the cache, which may turn it away. -/
  | presented (record : Record)
  | deleted (record : Record)
  | cleared
  | lookedUp (entity : String) (key : Value)

namespace CacheEvent

def apply (catalog : Catalog) (cache : Cache Record) : CacheEvent → Cache Record
  | .presented record =>
      match catalog.identityHashOf record.toInstance with
      | .ok hash => (cache.insert hash record).2
      | .error _ => cache
  | .deleted record =>
      match catalog.identityHashOf record.toInstance with
      | .ok hash => (cache.remove hash).2
      | .error _ => cache
  | .cleared => cache.clear
  | .lookedUp entity key => (cache.get (identityHash entity key)).2

def applyAll (catalog : Catalog) (cache : Cache Record) (events : List CacheEvent) :
    Cache Record :=
  events.foldl (apply catalog) cache

theorem apply_presented {catalog : Catalog} {record : Record} {hash : Int32}
    (hashed : catalog.identityHashOf record.toInstance = .ok hash) (cache : Cache Record) :
    apply catalog cache (.presented record) = (cache.insert hash record).2 := by
  simp only [apply, hashed]

theorem applyAll_append (catalog : Catalog) (cache : Cache Record)
    (first second : List CacheEvent) :
    applyAll catalog cache (first ++ second) =
      applyAll catalog (applyAll catalog cache first) second :=
  List.foldl_append

/-- The events that a result tells of. A failed operation tells of none. -/
def ofOutcome {α : Type} (told : α → List CacheEvent) : Except Error α → List CacheEvent
  | .ok result => told result
  | .error _ => []

end CacheEvent

open CacheEvent

namespace Session

/-- The events of a load: a look-up, and if that finds nothing what storage is found to hold. -/
def loadEvents (session : Session) (entity : String) (key : Value) (state : SessionState) :
    List CacheEvent :=
  .lookedUp entity key ::
    match (session.cached? entity key state).1 with
    | .ok (some _) => []
    | _ =>
        ofOutcome (fun found => found.toList.map .presented) (session.load entity key state).1

/-- A record that is saved is presented unless its key is still unknown. -/
def savedEvents (session : Session) (record : Record) : List CacheEvent :=
  match session.catalog.lacksKey record.toInstance with
  | .ok false => [.presented record]
  | _ => []

/-- What an operation does to the cache, in order. Each record that is read is presented once
all of them have been read, and a record that is written once it has been written. -/
def events (session : Session) (state : SessionState) : SessionOperation → List CacheEvent
  | .list query =>
      ofOutcome (fun records => records.map .presented) (session.list query state).1
  | .unique query =>
      ofOutcome (fun found => found.toList.map .presented) (session.unique query state).1
  | .load entity key => session.loadEvents entity key state
  | .loadDeferred reference =>
      if reference.isLoaded then []
      else session.loadEvents reference.entity reference.key state
  | .related item field =>
      ofOutcome (fun records => records.map .presented) (session.related item field state).1
  | .cache record => ofOutcome (fun _ => [.presented record]) (session.cache record state).1
  | .cached entity key => [.lookedUp entity key]
  | .clearCache => [.cleared]
  | .save record => ofOutcome (fun _ => session.savedEvents record) (session.save record state).1
  | .update record => ofOutcome (fun _ => [.presented record]) (session.update record state).1
  | .delete record => ofOutcome (fun _ => [.deleted record]) (session.delete record state).1
  | .count _ | .isCached _ | .createTables | .dropTables | .execute _ | .linkMany _ _ _
  | .linkOne _ _ _ | .reconcile _ _ _ => []

/-- What a list of operations does to the cache, in order. -/
def history (session : Session) (state : SessionState) : List SessionOperation → List CacheEvent
  | [] => []
  | operation :: rest =>
      session.events state operation ++
        session.history (session.perform operation state).2 rest

end Session

/-! ## Steps that leave the cache alone -/

namespace SessionStep

variable {α β : Type}

/-- The step leaves the cache alone, whatever its outcome. -/
def KeepsCache (step : SessionStep α) : Prop := Keeps SessionState.cache step

namespace KeepsCache

theorem settle (outcome : Except Error α) : KeepsCache (settle outcome) := Keeps.settle _ outcome

theorem pure (value : α) : KeepsCache (Pure.pure value : SessionStep α) := Keeps.pure _ value

theorem bind {step : SessionStep α} {next : α → SessionStep β} (keeps : KeepsCache step)
    (othersKeep : ∀ value, KeepsCache (next value)) : KeepsCache (step >>= next) :=
  Keeps.bind SessionState.cache keeps othersKeep

theorem note (event : Event) : KeepsCache (note event) := fun _ => rfl

theorem create (factory : Factory) (mapping : Mapping) (row : Row) :
    KeepsCache (create factory mapping row) := fun _ => rfl

theorem query (sql : String) (isCacheable : Bool) : KeepsCache (query sql isCacheable) := by
  intro state
  unfold SessionStep.query
  cases state.script.results with
  | nil => rfl
  | cons answer rest => cases answer <;> rfl

theorem execute (sql : String) : KeepsCache (execute sql) := by
  intro state
  unfold SessionStep.execute
  cases state.script.changes with
  | nil => rfl
  | cons answer rest => cases answer <;> rfl

theorem createAll (factory : Factory) (mapping : Mapping) (columns : List String)
    (rows : List (List Value)) : KeepsCache (createAll factory mapping columns rows) :=
  Keeps.createAll SessionState.cache columns (note _) (create factory mapping) rows

theorem withCursor (sql : String) (isCacheable : Bool) {work : ResultSet → SessionStep α}
    (keeps : ∀ result, KeepsCache (work result)) :
    KeepsCache (withCursor sql isCacheable work) :=
  (query sql isCacheable).bind fun result state => keeps result state

end KeepsCache

/-! ## Steps that tell what they do -/

/-- The cache behind the step is the one before it with the events applied that the outcome
tells of. -/
def Tells (catalog : Catalog) (told : α → List CacheEvent) (step : SessionStep α) : Prop :=
  ∀ state, (step state).2.cache = applyAll catalog state.cache (ofOutcome told (step state).1)

namespace Tells

variable {catalog : Catalog}

theorem of_keepsCache {step : SessionStep α} (keeps : KeepsCache step) :
    Tells catalog (fun _ => []) step := by
  intro state
  rw [keeps state]
  cases (step state).1 <;> rfl

/-- A step that leaves the cache alone may come first. Of its results only those need to be
considered with which it can succeed. -/
theorem bind {step : SessionStep α} {next : α → SessionStep β} {told : β → List CacheEvent}
    (keeps : KeepsCache step)
    (tells : ∀ value, (∃ state middle, step state = (.ok value, middle)) →
      Tells catalog told (next value)) :
    Tells catalog told (step >>= next) := by
  intro state
  have first := keeps state
  rcases ended : step state with ⟨outcome, middle⟩
  rw [ended] at first
  cases outcome with
  | error fault =>
      rw [bind_of_error ended, first]
      rfl
  | ok value => rw [bind_of_ok ended, tells value ⟨state, middle, ended⟩ middle, first]

theorem settle_bind {outcome : Except Error α} {next : α → SessionStep β}
    {told : β → List CacheEvent}
    (tells : ∀ value, outcome = .ok value → Tells catalog told (next value)) :
    Tells catalog told (settle outcome >>= next) := by
  refine bind (KeepsCache.settle outcome) fun value ⟨state, middle, settled⟩ => ?_
  exact tells value (settle_eq_ok.mp settled).1

end Tells

end SessionStep

/-! ## Records that are presented -/

/-- The factory makes records of the entity that it is asked to make them of. -/
def Factory.KeepsEntity (factory : Factory) : Prop :=
  ∀ {number mapping row record}, factory.create number mapping row = .ok record →
    record.entity = mapping.entity

theorem Record.entity_setAll (record : Record) (values : List (String × Value)) :
    (record.setAll values).entity = record.entity := by
  induction values generalizing record with
  | nil => rfl
  | cons first rest ih => exact ih (record.set first.1 first.2)

theorem Factory.keepsEntity_plain : Factory.plain.KeepsEntity := by
  intro number mapping row record made
  obtain ⟨values, -, written⟩ := bind_eq_ok.mp made
  cases written
  exact Record.entity_setAll _ values

namespace Session

open SessionStep

variable {session : Session}

theorem exists_identityHashOf {catalog : Catalog} {entity : String} {mapping : Mapping}
    (mapped : catalog.mapping entity = .ok mapping) {record : Record}
    (named : record.entity = mapping.entity) :
    ∃ hash, catalog.identityHashOf record.toInstance = .ok hash := by
  have ownMapped : catalog.mapping record.toInstance.entity = .ok mapping := by
    rw [← mapped, ← Catalog.mapping_entity mapped, ← named]
    rfl
  obtain ⟨key, keyed⟩ := Catalog.exists_keyValue ownMapped
  exact exists_bind keyed ⟨_, rfl⟩

theorem entity_of_createAll (keepsEntity : session.factory.KeepsEntity) {mapping : Mapping}
    {columns : List String} {rows : List (List Value)} {records : List Record}
    {state after : SessionState}
    (made : createAll session.factory mapping columns rows state = (.ok records, after)) :
    ∀ record ∈ records, record.entity = mapping.entity := by
  have created := createAll_eq_ok made
  clear made
  intro record member
  induction created with
  | nil => cases member
  | cons firstMade _ ih =>
      obtain ⟨number, firstMade⟩ := firstMade
      rcases List.mem_cons.mp member with rfl | inRest
      · exact keepsEntity firstMade
      · exact ih inRest

theorem tells_cache (record : Record) :
    Tells session.catalog (fun _ => [.presented record]) (session.cache record) := by
  refine Tells.settle_bind fun hash hashed state => ?_
  exact (apply_presented hashed state.cache).symm

theorem cache_of_hashed {record : Record} {hash : Int32}
    (hashed : session.catalog.identityHashOf record.toInstance = .ok hash)
    (state : SessionState) :
    ∃ isCached after, session.cache record state = (.ok isCached, after) ∧
      after.cache = apply session.catalog state.cache (.presented record) := by
  refine ⟨(state.cache.insert hash record).1,
    { state with cache := (state.cache.insert hash record).2 }, ?_, ?_⟩
  · rw [cache, hashed, settle_ok_bind]
    rfl
  · exact (apply_presented hashed state.cache).symm

theorem cacheAll_of_hashed {records : List Record}
    (hashed : ∀ record ∈ records, ∃ hash,
      session.catalog.identityHashOf record.toInstance = .ok hash) (state : SessionState) :
    ∃ after, session.cacheAll records state = (.ok (), after) ∧
      after.cache = applyAll session.catalog state.cache (records.map .presented) := by
  induction records generalizing state with
  | nil => exact ⟨state, rfl, rfl⟩
  | cons record rest ih =>
      obtain ⟨hash, recordHashed⟩ := hashed record List.mem_cons_self
      obtain ⟨isCached, middle, cached, middleCache⟩ := cache_of_hashed recordHashed state
      obtain ⟨after, othersCached, afterCache⟩ :=
        ih (fun other member => hashed other (List.mem_cons_of_mem record member)) middle
      refine ⟨after, ?_, ?_⟩
      · rw [cacheAll, bind_of_ok cached, othersCached]
      · rw [afterCache, middleCache]
        rfl

/-- Presenting records is told by a result that holds them. -/
theorem tells_cacheAll {α : Type} {records : List Record} {told : α → List CacheEvent}
    {result : α} (tellsOf : told result = records.map .presented)
    (hashed : ∀ record ∈ records, ∃ hash,
      session.catalog.identityHashOf record.toInstance = .ok hash) :
    Tells session.catalog told (session.cacheAll records >>= fun _ => pure result) := by
  intro state
  obtain ⟨after, cached, afterCache⟩ := cacheAll_of_hashed hashed state
  rw [bind_of_ok cached]
  change after.cache = applyAll session.catalog state.cache (told result)
  rw [tellsOf, afterCache]

theorem tells_cache_pure {α : Type} {record : Record} {hash : Int32} (result : α)
    (hashed : session.catalog.identityHashOf record.toInstance = .ok hash) :
    Tells session.catalog (fun _ => [.presented record])
      (session.cache record >>= fun _ => pure result) := by
  intro state
  obtain ⟨isCached, after, cached, afterCache⟩ := cache_of_hashed hashed state
  rw [bind_of_ok cached]
  exact afterCache

/-! ## Reading -/

/-- The cached record of an identity is what the cache holds under its hash, if that is of the
identity. -/
theorem cached?_apply (session : Session) (entity : String) (key : Value)
    (state : SessionState) :
    session.cached? entity key state =
      (.ok ((state.cache.value? (identityHash entity key)).filter fun record =>
          session.catalog.hasIdentity record.toInstance entity key),
        { state with cache := (state.cache.get (identityHash entity key)).2 }) := by
  rw [← Cache.get_fst]
  rfl

theorem keepsCache_readAll (mapping : Mapping) (result : ResultSet) :
    KeepsCache (if result.count = 0 then pure []
      else createAll session.factory mapping result.columns result.rows) := by
  split
  · exact .pure []
  · exact .createAll _ _ _ _

theorem keepsCache_readOne (entity : String) (mapping : Mapping) (result : ResultSet) :
    KeepsCache (match result.count with
      | 0 => pure none
      | 1 => do
        note .rewound
        let record ← create session.factory mapping result.firstRow
        pure (some record)
      | several => settle (.error (.nonUniqueResult entity several))) := by
  split
  · exact .pure none
  · exact (KeepsCache.note _).bind fun _ => (KeepsCache.create _ _ _).bind fun record =>
      .pure (some record)
  · exact .settle _

section Reading

variable (keepsEntity : session.factory.KeepsEntity)

include keepsEntity

theorem tells_list (query : Query) :
    Tells session.catalog (fun records => records.map .presented) (session.list query) := by
  -- The records are of the entity that has just been mapped, so that each of them has a hash.
  refine Tells.settle_bind fun mapping mapped => Tells.settle_bind fun sql _ => ?_
  refine Tells.bind (KeepsCache.withCursor sql true (keepsCache_readAll mapping))
    fun records ⟨state, middle, read⟩ => tells_cacheAll rfl ?_
  obtain ⟨result, opened, ended, -, worked, -⟩ := withCursor_eq_ok read
  split at worked
  · cases worked
    exact fun record member => absurd member List.not_mem_nil
  · exact fun record member =>
      exists_identityHashOf mapped (entity_of_createAll keepsEntity worked record member)

theorem tells_unique (query : Query) :
    Tells session.catalog (fun found => found.toList.map .presented) (session.unique query) := by
  refine Tells.settle_bind fun mapping mapped => Tells.settle_bind fun sql _ => ?_
  refine Tells.bind (KeepsCache.withCursor sql true (keepsCache_readOne query.entity mapping))
    fun found ⟨state, middle, read⟩ => tells_cacheAll rfl ?_
  obtain ⟨result, opened, ended, -, worked, -⟩ := withCursor_eq_ok read
  rcases number : result.count with _ | _ | several
  · simp only [number] at worked
    cases worked
    exact fun record member => absurd member List.not_mem_nil
  · simp only [number] at worked
    obtain ⟨_, _, _, continuation⟩ := SessionStep.bind_eq_ok.mp worked
    obtain ⟨record, _, made, finished⟩ := SessionStep.bind_eq_ok.mp continuation
    cases finished
    obtain ⟨_, ofRow⟩ := create_eq_ok made
    intro other member
    rw [Option.toList_some, List.mem_singleton] at member
    rw [member]
    exact exists_identityHashOf mapped (keepsEntity ofRow)
  · simp only [number] at worked
    cases worked

theorem tells_related (item : Instance) (field : String) :
    Tells session.catalog (fun records => records.map .presented)
      (session.related item field) := by
  refine Tells.settle_bind fun relationship _ => Tells.settle_bind fun _ _ => ?_
  refine Tells.settle_bind fun sides _ => Tells.settle_bind fun statement _ => ?_
  refine Tells.settle_bind fun mapping mapped => ?_
  refine Tells.bind (KeepsCache.withCursor _ true fun result => .createAll _ _ _ _)
    fun records ⟨state, middle, read⟩ => tells_cacheAll rfl ?_
  obtain ⟨result, opened, ended, -, worked, -⟩ := withCursor_eq_ok read
  exact fun record member =>
    exists_identityHashOf mapped (entity_of_createAll keepsEntity worked record member)

theorem cache_load (entity : String) (key : Value) (state : SessionState) :
    (session.load entity key state).2.cache =
      applyAll session.catalog state.cache (session.loadEvents entity key state) := by
  have looked := cached?_apply session entity key state
  unfold loadEvents load
  rw [bind_of_ok looked, looked]
  cases (state.cache.value? (identityHash entity key)).filter fun record =>
      session.catalog.hasIdentity record.toInstance entity key with
  | some record => rfl
  | none =>
      refine Tells.settle_bind (fun mapping _ => ?_) _
      exact tells_unique keepsEntity _

theorem cache_loadDeferred (reference : Deferred) (state : SessionState) :
    (session.loadDeferred reference state).2.cache =
      applyAll session.catalog state.cache
        (session.events state (.loadDeferred reference)) := by
  unfold loadDeferred Deferred.load
  cases present : reference.loaded with
  | some record =>
      rw [events, Deferred.isLoaded, present]
      rfl
  | none =>
      rw [events, Deferred.isLoaded, present, Option.isSome_none, if_neg Bool.false_ne_true,
        ← cache_load keepsEntity]
      rcases ended : session.load reference.entity reference.key state with ⟨outcome, after⟩
      cases outcome with
      | error fault =>
          dsimp only
          rw [bind_of_error ended]
      | ok found =>
          dsimp only
          rw [bind_of_ok ended]
          rfl

end Reading

/-! ## Writing -/

theorem keepsCache_runAll (statements : List Statement) : KeepsCache (runAll statements) := by
  induction statements with
  | nil => exact .pure ()
  | cons statement rest ih => exact (KeepsCache.execute _).bind fun _ => ih

theorem keepsCache_deleteAllLinks (item : Instance) (relationships : List Relationship) :
    KeepsCache (session.deleteAllLinks item relationships) := by
  induction relationships with
  | nil => exact .pure ()
  | cons relationship rest ih =>
      exact (KeepsCache.settle _).bind fun _ => (KeepsCache.execute _).bind fun _ => ih

theorem keepsCache_insertLinks (relationship : Relationship) (item : Instance)
    (keys : List Value) : KeepsCache (session.insertLinks relationship item keys) := by
  induction keys with
  | nil => exact .pure 0
  | cons key rest ih =>
      exact (KeepsCache.settle _).bind fun _ => (KeepsCache.execute _).bind fun _ =>
        ih.bind fun _ => .pure _

theorem keepsCache_count (query : Query) : KeepsCache (session.count query) := by
  refine (KeepsCache.settle _).bind fun _ => .withCursor _ _ fun result => ?_
  refine (KeepsCache.note _).bind fun _ => ?_
  split
  · exact .pure 0
  · refine (KeepsCache.note _).bind fun _ => (KeepsCache.settle _).bind fun number => ?_
    split
    · exact .settle _
    · exact .pure _

theorem keepsCache_createTables : KeepsCache session.createTables :=
  (KeepsCache.settle _).bind fun statements =>
    (keepsCache_runAll statements).bind fun _ => .pure _

theorem keepsCache_dropTables : KeepsCache session.dropTables :=
  (KeepsCache.settle _).bind fun statements =>
    (keepsCache_runAll statements).bind fun _ => .pure _

theorem keepsCache_linkMany (owner : Instance) (field : String) (relatedKeys : List Value) :
    KeepsCache (session.linkMany owner field relatedKeys) := by
  refine (KeepsCache.settle _).bind fun _ => (KeepsCache.settle _).bind fun statement => ?_
  cases statement with
  | none => exact .pure 0
  | some statement => exact .execute _

theorem keepsCache_linkOne (owner : Instance) (field : String) (related : Instance) :
    KeepsCache (session.linkOne owner field related) :=
  (KeepsCache.settle _).bind fun _ => (KeepsCache.settle _).bind fun _ => .execute _

theorem keepsCache_reconcile (item : Instance) (field : String) (relatedKeys : List Value) :
    KeepsCache (session.reconcile item field relatedKeys) :=
  (KeepsCache.settle _).bind fun relationship => (KeepsCache.settle _).bind fun _ =>
    (KeepsCache.execute _).bind fun _ =>
      (keepsCache_insertLinks relationship item relatedKeys).bind fun _ => .pure _

theorem tells_save (record : Record) :
    Tells session.catalog (fun _ => session.savedEvents record) (session.save record) := by
  refine Tells.settle_bind fun statement inserted => ?_
  obtain ⟨mapping, mapped, -⟩ := bind_eq_ok.mp inserted
  obtain ⟨hash, hashed⟩ := exists_identityHashOf mapped (Catalog.mapping_entity mapped).symm
  refine Tells.bind (KeepsCache.execute _) fun rows _ => ?_
  refine Tells.settle_bind fun lacksKey lacking => ?_
  simp only [savedEvents, lacking]
  cases lacksKey with
  | true => exact .of_keepsCache (.pure rows)
  | false => exact tells_cache_pure rows hashed

theorem tells_update (record : Record) :
    Tells session.catalog (fun _ => [.presented record]) (session.update record) := by
  refine Tells.settle_bind fun statement updated => ?_
  obtain ⟨mapping, mapped, -⟩ := bind_eq_ok.mp updated
  obtain ⟨hash, hashed⟩ := exists_identityHashOf mapped (Catalog.mapping_entity mapped).symm
  cases statement with
  | none => exact Tells.bind (KeepsCache.pure 0) fun rows _ => tells_cache_pure rows hashed
  | some statement =>
      exact Tells.bind (KeepsCache.execute _) fun rows _ => tells_cache_pure rows hashed

theorem tells_delete (record : Record) :
    Tells session.catalog (fun _ => [.deleted record]) (session.delete record) := by
  refine Tells.settle_bind fun relationships _ => ?_
  refine Tells.bind (keepsCache_deleteAllLinks _ relationships) fun _ _ => ?_
  refine Tells.settle_bind fun statement _ => Tells.bind (KeepsCache.execute _) fun rows _ => ?_
  refine Tells.settle_bind fun hash hashed state => ?_
  change (state.cache.remove hash).2 = apply session.catalog state.cache (.deleted record)
  simp only [apply, hashed]

/-! ## Operations -/

theorem cache_perform (keepsEntity : session.factory.KeepsEntity) (state : SessionState)
    (operation : SessionOperation) :
    (session.perform operation state).2.cache =
      applyAll session.catalog state.cache (session.events state operation) := by
  cases operation <;> simp only [perform, map_apply]
  case list query => exact tells_list keepsEntity query state
  case unique query => exact tells_unique keepsEntity query state
  case load entity key => exact cache_load keepsEntity entity key state
  case loadDeferred reference => exact cache_loadDeferred keepsEntity reference state
  case related item field => exact tells_related keepsEntity item field state
  case cached entity key =>
    rw [cached?_apply]
    rfl
  case clearCache => rfl
  case save record => exact tells_save record state
  case update record => exact tells_update record state
  case delete record => exact tells_delete record state
  case cache record => exact tells_cache record state
  case isCached item => rfl
  case count query => exact keepsCache_count query state
  case createTables => exact keepsCache_createTables state
  case dropTables => exact keepsCache_dropTables state
  case execute sql => exact KeepsCache.execute sql state
  case linkMany owner field relatedKeys => exact keepsCache_linkMany owner field relatedKeys state
  case linkOne owner field related => exact keepsCache_linkOne owner field related state
  case reconcile item field relatedKeys =>
    exact keepsCache_reconcile item field relatedKeys state

/-- The cache behind a list of operations is the one before it with their history applied. -/
theorem cache_stateAfter (keepsEntity : session.factory.KeepsEntity) (state : SessionState)
    (operations : List SessionOperation) :
    (session.stateAfter state operations).cache =
      applyAll session.catalog state.cache (session.history state operations) := by
  induction operations generalizing state with
  | nil => rfl
  | cons operation rest ih =>
      rw [stateAfter, history, ih, applyAll_append, ← cache_perform keepsEntity]

end Session

end Persistence
