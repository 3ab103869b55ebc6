import Persistence.Proofs.Catalog.Compilation
import Persistence.Proofs.Session.CacheTrace
import Persistence.Proofs.Session.LinkRemoval

/-!
# Mapping before storage

An operation that fails because of the schema, or of a name that the schema does not know, has
asked storage nothing: whatever it needs is resolved first. Links that are made those to given
keys are the exception. Those to other keys are removed before it is known whether the keys can
be written at all.
-/

set_option autoImplicit false

namespace Persistence

open Schema

/-- Whether the error comes from the schema and what is asked of it, not from storage. -/
def Error.isMapping : Error → Bool
  | .mapping _ | .invalidCriteria _ _ | .relationshipMismatch _ _ | .wrongCardinality _ _ _ => true
  | .nonUniqueResult _ _ | .storage _ | .row _ => false

/-! ## Columns of resolved entities -/

namespace Catalog

variable {catalog : Catalog} {entity : String} {mapping : Mapping}

theorem exists_storageType (mapped : catalog.mapping entity = .ok mapping) {field : Field}
    (member : field ∈ mapping.columnFields)
    (related : field.type.association?.isSome = true →
      ∃ relationship, catalog.relationship entity field.name = .ok relationship) :
    ∃ type, catalog.storageType entity field.name = .ok type := by
  have isField := field?_of_mem mapped (List.mem_of_mem_filter member)
  cases typed : field.type with
  | scalar scalar =>
      have storageType := storageType_of_mem mapped member typed
      rw [mapping_entity mapped] at storageType
      exact ⟨_, storageType⟩
  | association association =>
      -- What the field holds is the key of a target that is resolved with the relationship.
      obtain ⟨relationship, resolved⟩ := related (by rw [typed]; rfl)
      obtain ⟨owner, found, declared, target, owned, named, associated, targeted, -⟩ :=
        of_relationship_eq_ok resolved
      rw [mapped] at owned
      cases owned
      rw [isField] at named
      cases named
      rw [typed] at associated
      cases associated
      obtain ⟨scalar, keyTyped⟩ := scalar_key targeted
      refine exists_bind mapped (exists_bind (Mapping.field_eq_ok.mpr isField) ?_)
      rw [typed]
      refine exists_bind targeted ?_
      rw [keyTyped]
      exact ⟨_, rfl⟩

theorem exists_declaredRelationships {declared : List Relationship}
    (declares : catalog.declaredManyToMany = .ok declared)
    (mapped : catalog.mapping entity = .ok mapping) :
    ∃ relationships, catalog.declaredRelationships entity = .ok relationships := by
  obtain ⟨groups, grouped, -⟩ := bind_eq_ok.mp declares
  obtain ⟨definition, found, described⟩ := mapping_eq_ok.mp mapped
  have stored : definition.isPersistent = true := by
    rw [Entity.isPersistent, (Mapping.ofEntity_eq_ok.mp described).1]
    rfl
  have named : entity ∈ (catalog.schema.entities.filter Entity.isPersistent).map Entity.name := by
    rw [← name_of_entity? found]
    exact List.mem_map_of_mem (List.mem_filter.mpr ⟨List.mem_of_find?_eq_some found, stored⟩)
  obtain ⟨relationships, -, ofEntity⟩ := exists_result (mapM_eq_ok.mp grouped) named
  exact ⟨relationships, ofEntity⟩

theorem exists_sideLiteral {declared : List Relationship}
    (declares : catalog.declaredManyToMany = .ok declared) {relationship : Relationship}
    (member : relationship ∈ declared) {side : Side}
    (isSide : side = relationship.first ∨ side = relationship.second) (value : Value) :
    (∃ literal, catalog.sideLiteral side value = .ok literal) ∧
      ∃ mapping, catalog.mapping side.entity = .ok mapping := by
  obtain ⟨tabled, entity, field, resolved⟩ := of_mem_declaredManyToMany declares member
  obtain ⟨table, joined⟩ := Option.isSome_iff_exists.mp tabled
  have linked := Relationship.cardinality_eq_manyToMany.mpr
    ⟨table, Relationship.joinTable?_eq_some.mp joined⟩
  obtain ⟨owner, target, owned, targeted, ⟨own, stored, ownNamed, hasColumn⟩, other,
    otherMember, otherNamed⟩ := fields_relationship resolved
  have typed {entity : String} {mapping : Mapping} (mapped : catalog.mapping entity = .ok mapping)
      {field : Field} (column : field ∈ mapping.columnFields) :
      ∃ type, catalog.storageType entity field.name = .ok type := by
    obtain ⟨all, ofEntity⟩ := exists_declaredRelationships declares mapped
    refine exists_storageType mapped column fun associated => ?_
    have isField := List.mem_of_mem_filter column
    exact relationship_of_declaredRelationships mapped ofEntity isField associated
  rcases isSide with rfl | rfl
  · obtain ⟨type, ownTyped⟩ := typed owned (List.mem_filter.mpr ⟨stored, hasColumn linked⟩)
    rw [ownNamed] at ownTyped
    exact ⟨exists_bind ownTyped ⟨_, rfl⟩, owner, owned⟩
  · obtain ⟨type, otherTyped⟩ := typed targeted otherMember
    rw [otherNamed] at otherTyped
    exact ⟨exists_bind otherTyped ⟨_, rfl⟩, target, targeted⟩

/-- Once the many-to-many relationships of the schema are found, the links of an instance that
takes part in one can be removed, and its entity has a mapping. -/
theorem exists_removals {item : Instance} {relationships : List Relationship}
    (found : catalog.manyToManyRelationships item.entity = .ok relationships) :
    ∀ relationship ∈ relationships,
      (∃ statement, catalog.deleteLinks relationship item = .ok statement) ∧
        ∃ mapping, catalog.mapping item.entity = .ok mapping := by
  intro relationship member
  obtain ⟨declared, declares, rfl⟩ := manyToManyRelationships_eq_ok found
  obtain ⟨distinct, included⟩ := List.mem_filter.mp member
  obtain ⟨table, -, first⟩ := mem_distinctByJoinTable.mp distinct
  have tabled : relationship.joinTable? = some table := by simpa using List.find?_some first
  have isDeclared := List.mem_of_find?_eq_some first
  obtain ⟨own, other, sided, isSide, same⟩ : ∃ own other,
      relationship.sides item.entity = .ok (own, other) ∧
        (own = relationship.first ∨ own = relationship.second) ∧ own.entity = item.entity := by
    rcases Validated.sides_of_includes included with ⟨sided, same⟩ | ⟨sided, same⟩
    · exact ⟨_, _, sided, .inl rfl, same⟩
    · exact ⟨_, _, sided, .inr rfl, same⟩
  obtain ⟨⟨owner, owned⟩, mapped⟩ :=
    exists_sideLiteral declares isDeclared isSide (item.value own.field)
  rw [same] at mapped
  exact ⟨⟨_, deleteLinks_eq_ok.mpr ⟨table, own, other, owner, tabled, sided, owned, rfl⟩⟩, mapped⟩

end Catalog

namespace SessionStep

variable {α β : Type}

/-! ## Steps past all resolution -/

/-- The step ends with a value as promised or fails, but not by mapping. -/
def Yields (promise : α → Prop) (step : SessionStep α) : Prop :=
  ∀ state, match (step state).1 with
    | .ok value => promise value
    | .error fault => fault.isMapping = false

namespace Yields

variable {promise : α → Prop}

theorem of_failsOnly {outcome : Except Error α}
    (fails : FailsOnly (fun fault => fault.isMapping = false) outcome)
    (holds : ∀ value, outcome = .ok value → promise value) : Yields promise (settle outcome) := by
  intro state
  cases ended : outcome with
  | error fault => exact fails fault ended
  | ok value => exact holds value ended

theorem settle {outcome : Except Error α} {value : α} (settled : outcome = .ok value) :
    Yields (fun result => result = value) (settle outcome) := by
  intro state
  rw [settled]
  rfl

theorem pure {value : α} (holds : promise value) :
    Yields promise (Pure.pure value : SessionStep α) := fun _ => holds

theorem bind {others : β → Prop} {step : SessionStep α} {next : α → SessionStep β}
    (yields : Yields promise step)
    (continued : ∀ value, promise value → Yields others (next value)) :
    Yields others (step >>= next) := by
  intro state
  have first := yields state
  rcases ended : step state with ⟨outcome, middle⟩
  rw [ended] at first
  cases outcome with
  | error fault =>
      rw [bind_of_error ended]
      exact first
  | ok value =>
      rw [bind_of_ok ended]
      exact continued value first middle

theorem note (event : Event) : Yields (fun _ => True) (note event) := fun _ => trivial

theorem execute (sql : String) : Yields (fun _ => True) (execute sql) := by
  intro state
  unfold SessionStep.execute
  cases state.script.changes with
  | nil => trivial
  | cons answer rest =>
      cases answer with
      | error words => rfl
      | ok count => trivial

theorem query (sql : String) (isCacheable : Bool) :
    Yields (fun _ => True) (query sql isCacheable) := by
  intro state
  unfold SessionStep.query
  cases state.script.results with
  | nil => rfl
  | cons answer rest =>
      cases answer with
      | error words => rfl
      | ok result => trivial

theorem withCursor (sql : String) (isCacheable : Bool) {work : ResultSet → SessionStep α}
    (yields : ∀ result, Yields promise (work result)) :
    Yields promise (withCursor sql isCacheable work) :=
  (query sql isCacheable).bind fun result _ state => yields result state

end Yields

/-- If the step fails by mapping, it has left storage alone. -/
def MapsFirst (step : SessionStep α) : Prop :=
  ∀ state fault after, step state = (.error fault, after) → fault.isMapping = true →
    after.log = state.log ∧ after.script = state.script

namespace MapsFirst

theorem of_keepsStorage {step : SessionStep α} (keeps : KeepsStorage step) : MapsFirst step := by
  intro state fault after failed _
  have kept := keeps state
  rw [failed] at kept
  exact Prod.mk.inj kept

theorem of_yields {step : SessionStep α} (yields : Yields (fun _ => True) step) :
    MapsFirst step := by
  intro state fault after failed mapping
  have other := yields state
  rw [failed] at other
  rw [show fault.isMapping = false from other] at mapping
  cases mapping

theorem bind {step : SessionStep α} {next : α → SessionStep β} (keeps : KeepsStorage step)
    (others : ∀ value, (∃ state middle, step state = (.ok value, middle)) →
      MapsFirst (next value)) :
    MapsFirst (step >>= next) := by
  intro state fault after failed mapping
  have kept := keeps state
  rcases ended : step state with ⟨outcome, middle⟩
  rw [ended] at kept
  obtain ⟨log, script⟩ := Prod.mk.inj kept
  cases outcome with
  | error reported =>
      rw [bind_of_error ended] at failed
      cases failed
      exact ⟨log, script⟩
  | ok value =>
      rw [bind_of_ok ended] at failed
      obtain ⟨afterLog, afterScript⟩ :=
        others value ⟨state, middle, ended⟩ middle fault after failed mapping
      exact ⟨afterLog.trans log, afterScript.trans script⟩

theorem settle_bind {outcome : Except Error α} {next : α → SessionStep β}
    (others : ∀ value, outcome = .ok value → MapsFirst (next value)) :
    MapsFirst (settle outcome >>= next) := by
  refine bind (.settle outcome) fun value ⟨state, middle, settled⟩ => ?_
  exact others value (settle_eq_ok.mp settled).1

theorem map {step : SessionStep α} (first : MapsFirst step) (translate : α → β) :
    MapsFirst (translate <$> step) := by
  intro state fault after failed mapping
  rw [map_apply] at failed
  rcases ended : step state with ⟨outcome, middle⟩
  rw [ended] at failed
  cases outcome with
  | ok value => cases failed
  | error reported =>
      cases failed
      exact first state fault middle ended mapping

end MapsFirst

end SessionStep

/-! ## Records of rows -/

theorem Row.failsOnly_cell (row : Row) (index : Nat) :
    FailsOnly (fun fault => fault.isMapping = false) (row.cell index) := by
  intro fault failed
  unfold cell at failed
  split at failed
  · cases failed
  · cases failed
    rfl

theorem Row.failsOnly_integer (row : Row) (index : Nat) :
    FailsOnly (fun fault => fault.isMapping = false) (row.integer index) := by
  refine FailsOnly.bind (row.failsOnly_cell index) fun value _ fault failed => ?_
  unfold integerCell at failed
  split at failed
  · cases failed
  · cases failed
    rfl

theorem Row.failsOnly_fieldValue (row : Row) (field : Field) :
    FailsOnly (fun fault => fault.isMapping = false) (row.fieldValue field) := by
  unfold fieldValue
  cases row.columnIndex? field.columnName with
  | some index =>
      refine FailsOnly.bind (row.failsOnly_cell index) fun stored _ => ?_
      split
      · exact .of_ok rfl
      · exact .of_ok rfl
  | none =>
      dsimp only
      split
      · exact .of_ok rfl
      · exact .of_ok rfl

theorem Row.failsOnly_toRecord (row : Row) (mapping : Mapping) :
    FailsOnly (fun fault => fault.isMapping = false) (row.toRecord mapping) := by
  refine FailsOnly.bind ?_ fun values _ => .of_ok rfl
  induction mapping.columnFields with
  | nil => exact .of_ok rfl
  | cons field rest ih =>
      exact FailsOnly.bind (row.failsOnly_fieldValue field) fun value _ =>
        FailsOnly.bind ih fun values _ => .of_ok rfl

/-- The factory makes records of the entity that it is asked to make them of, or finds fault
with the row. -/
def Factory.MakesRecords (factory : Factory) : Prop :=
  factory.KeepsEntity ∧ ∀ number mapping row,
    FailsOnly (fun fault => fault.isMapping = false) (factory.create number mapping row)

theorem Factory.makesRecords_plain : Factory.plain.MakesRecords :=
  ⟨keepsEntity_plain, fun _ mapping row => row.failsOnly_toRecord mapping⟩

namespace SessionStep.Yields

variable {factory : Factory}

theorem create (makes : factory.MakesRecords) (mapping : Mapping) (row : Row) :
    Yields (fun record => record.entity = mapping.entity) (create factory mapping row) := by
  intro state
  exact of_failsOnly (makes.2 _ mapping row) (fun record made => makes.1 made) state

theorem createAll (makes : factory.MakesRecords) (mapping : Mapping) (columns : List String)
    (rows : List (List Value)) :
    Yields (fun records => ∀ record ∈ records, record.entity = mapping.entity)
      (createAll factory mapping columns rows) := by
  induction rows with
  | nil => exact (note _).bind fun _ _ => .pure (List.forall_mem_nil _)
  | cons cells rest ih =>
      exact (note _).bind fun _ _ => (create makes mapping _).bind fun record named =>
        ih.bind fun records othersNamed => .pure (List.forall_mem_cons.mpr ⟨named, othersNamed⟩)

end SessionStep.Yields

/-! ## Reading -/

namespace Session

open SessionStep

variable {session : Session} {mapping : Mapping}

theorem yields_cache {record : Record}
    (hashed : ∃ hash, session.catalog.identityHashOf record.toInstance = .ok hash) :
    Yields (fun _ => True) (session.cache record) := by
  intro state
  obtain ⟨hash, hashed⟩ := hashed
  obtain ⟨isCached, after, cached, -⟩ := cache_of_hashed hashed state
  rw [cached]
  trivial

theorem yields_cacheAll {entity : String}
    (mapped : session.catalog.mapping entity = .ok mapping) {records : List Record}
    (named : ∀ record ∈ records, record.entity = mapping.entity) :
    Yields (fun _ => True) (session.cacheAll records) := by
  induction records with
  | nil => exact .pure trivial
  | cons record rest ih =>
      obtain ⟨first, others⟩ := List.forall_mem_cons.mp named
      exact (yields_cache (exists_identityHashOf mapped first)).bind fun _ _ => ih others

section Reading

variable (makes : session.factory.MakesRecords)

include makes

theorem yields_readAll (mapping : Mapping) (result : ResultSet) :
    Yields (fun records => ∀ record ∈ records, record.entity = mapping.entity)
      (if result.count = 0 then pure []
        else createAll session.factory mapping result.columns result.rows) := by
  split
  · exact .pure (List.forall_mem_nil _)
  · exact .createAll makes mapping _ _

theorem yields_readOne (entity : String) (mapping : Mapping) (result : ResultSet) :
    Yields (fun found => ∀ record ∈ found.toList, record.entity = mapping.entity)
      (match result.count with
        | 0 => pure none
        | 1 => do
          note .rewound
          let record ← create session.factory mapping result.firstRow
          pure (some record)
        | several => settle (.error (.nonUniqueResult entity several))) := by
  split
  · exact .pure (List.forall_mem_nil _)
  · exact (Yields.note _).bind fun _ _ => (Yields.create makes mapping _).bind fun record named =>
      .pure (List.forall_mem_singleton.mpr named)
  · exact fun _ => rfl

theorem mapsFirst_list (query : Query) : MapsFirst (session.list query) := by
  refine MapsFirst.settle_bind fun mapping mapped => MapsFirst.settle_bind fun sql _ => ?_
  refine MapsFirst.of_yields ?_
  exact (Yields.withCursor sql true (yields_readAll makes mapping)).bind fun records named =>
    (yields_cacheAll mapped named).bind fun _ _ => .pure trivial

theorem mapsFirst_unique (query : Query) : MapsFirst (session.unique query) := by
  refine MapsFirst.settle_bind fun mapping mapped => MapsFirst.settle_bind fun sql _ => ?_
  refine MapsFirst.of_yields ?_
  exact (Yields.withCursor sql true (yields_readOne makes query.entity mapping)).bind
    fun found named => (yields_cacheAll mapped named).bind fun _ _ => .pure trivial

theorem mapsFirst_load (entity : String) (key : Value) : MapsFirst (session.load entity key) := by
  refine MapsFirst.bind (.cached? session entity key) fun found _ => ?_
  cases found with
  | some record => exact .of_keepsStorage (.pure _)
  | none => exact MapsFirst.settle_bind fun mapping _ => mapsFirst_unique makes _

theorem mapsFirst_loadDeferred (reference : Deferred) :
    MapsFirst (session.loadDeferred reference) := by
  unfold loadDeferred Deferred.load
  cases reference.loaded with
  | some record => exact .of_keepsStorage (.pure _)
  | none => exact (mapsFirst_load makes _ _).map _

theorem mapsFirst_related (item : Instance) (field : String) :
    MapsFirst (session.related item field) := by
  refine MapsFirst.settle_bind fun relationship _ => MapsFirst.settle_bind fun _ _ => ?_
  refine MapsFirst.settle_bind fun sides _ => MapsFirst.settle_bind fun statement _ => ?_
  refine MapsFirst.settle_bind fun mapping mapped => ?_
  exact MapsFirst.of_yields ((Yields.withCursor _ true fun result =>
    .createAll makes mapping _ _).bind fun records named =>
      (yields_cacheAll mapped named).bind fun _ _ => .pure trivial)

end Reading

theorem mapsFirst_count (query : Query) : MapsFirst (session.count query) := by
  refine MapsFirst.settle_bind fun statement _ => .of_yields ?_
  refine Yields.withCursor _ _ fun result => ?_
  refine (Yields.note _).bind fun _ _ => ?_
  split
  · exact .pure trivial
  · refine (Yields.note _).bind fun _ _ => ?_
    have reads : Yields (fun _ => True) (settle (result.firstRow.integer 0)) :=
      .of_failsOnly (result.firstRow.failsOnly_integer 0) fun _ _ => trivial
    refine reads.bind fun number _ => ?_
    split
    · exact fun _ => rfl
    · exact .pure trivial

/-! ## Writing -/

theorem yields_runAll (statements : List Statement) :
    Yields (fun _ => True) (runAll statements) := by
  induction statements with
  | nil => exact .pure trivial
  | cons statement rest ih => exact (Yields.execute _).bind fun _ _ => ih

theorem mapsFirst_createTables : MapsFirst session.createTables := by
  refine MapsFirst.settle_bind fun statements _ => .of_yields ?_
  exact (yields_runAll statements).bind fun _ _ => .pure trivial

theorem mapsFirst_dropTables : MapsFirst session.dropTables := by
  refine MapsFirst.settle_bind fun statements _ => .of_yields ?_
  exact (yields_runAll statements).bind fun _ _ => .pure trivial

/-- A record whose entity has a mapping is cached without looking at storage. -/
theorem yields_cache_pure {α : Type} {record : Record}
    (mapped : session.catalog.mapping record.toInstance.entity = .ok mapping) (value : α) :
    Yields (fun _ => True) (session.cache record >>= fun _ => Pure.pure value) := by
  have hashed := exists_identityHashOf mapped (Catalog.mapping_entity mapped).symm
  exact (yields_cache hashed).bind fun _ _ => .pure trivial

theorem mapsFirst_save (record : Record) : MapsFirst (session.save record) := by
  refine MapsFirst.settle_bind fun statement inserted => ?_
  -- The insertion has found the mapping, and what follows needs no more than that.
  obtain ⟨mapping, mapped, -⟩ := bind_eq_ok.mp inserted
  obtain ⟨key, keyed⟩ := Catalog.exists_keyValue mapped
  have lacking : session.catalog.lacksKey record.toInstance = .ok (key.isNull || key.isZero) :=
    bind_eq_ok.mpr ⟨key, keyed, rfl⟩
  refine MapsFirst.of_yields ?_
  refine (Yields.execute _).bind fun rows _ => (Yields.settle lacking).bind fun lacksKey _ => ?_
  cases lacksKey with
  | true => exact .pure trivial
  | false => exact yields_cache_pure mapped rows

theorem mapsFirst_update (record : Record) : MapsFirst (session.update record) := by
  refine MapsFirst.settle_bind fun statement updated => .of_yields ?_
  obtain ⟨mapping, mapped, -⟩ := bind_eq_ok.mp updated
  cases statement with
  | none => exact yields_cache_pure mapped 0
  | some statement => exact (Yields.execute _).bind fun rows _ => yields_cache_pure mapped rows

theorem yields_deleteAllLinks {item : Instance} {relationships : List Relationship}
    (compiled : ∀ relationship ∈ relationships, ∃ statement,
      session.catalog.deleteLinks relationship item = .ok statement) :
    Yields (fun _ => True) (session.deleteAllLinks item relationships) := by
  induction relationships with
  | nil => exact .pure trivial
  | cons relationship rest ih =>
      obtain ⟨⟨statement, first⟩, others⟩ := List.forall_mem_cons.mp compiled
      exact (Yields.settle first).bind fun _ _ => (Yields.execute _).bind fun _ _ =>
        ih others

theorem yields_delete_row {record : Record}
    (mapped : session.catalog.mapping record.toInstance.entity = .ok mapping) :
    Yields (fun _ => True) (do
      let statement ← settle (session.catalog.delete record.toInstance)
      let rows ← run statement
      let hash ← settle (session.catalog.identityHashOf record.toInstance)
      forget hash
      Pure.pure rows : SessionStep Nat) := by
  obtain ⟨statement, compiled⟩ := Catalog.exists_delete mapped
  obtain ⟨hash, hashed⟩ := exists_identityHashOf mapped (Catalog.mapping_entity mapped).symm
  refine (Yields.settle compiled).bind fun _ _ => (Yields.execute _).bind fun rows _ => ?_
  exact (Yields.settle hashed).bind fun _ _ _ => trivial

theorem mapsFirst_delete (record : Record) : MapsFirst (session.delete record) := by
  refine MapsFirst.settle_bind fun relationships found => ?_
  have removals := Catalog.exists_removals found
  cases relationships with
  | nil =>
      -- No statement comes before that on the row.
      refine MapsFirst.bind (.pure ()) fun _ _ => MapsFirst.settle_bind fun statement compiled => ?_
      obtain ⟨mapping, mapped, -⟩ := bind_eq_ok.mp compiled
      have row := yields_delete_row mapped
      rw [compiled] at row
      exact .of_yields row
  | cons first rest =>
      obtain ⟨mapping, mapped⟩ := (removals first List.mem_cons_self).2
      refine MapsFirst.of_yields (Yields.bind (yields_deleteAllLinks fun relationship member =>
        (removals relationship member).1) fun _ _ => yields_delete_row mapped)

theorem mapsFirst_linkMany (owner : Instance) (field : String) (relatedKeys : List Value) :
    MapsFirst (session.linkMany owner field relatedKeys) := by
  refine MapsFirst.settle_bind fun _ _ => MapsFirst.settle_bind fun statement _ => ?_
  cases statement with
  | none => exact .of_keepsStorage (.pure 0)
  | some statement => exact .of_yields (Yields.execute _)

theorem mapsFirst_linkOne (owner : Instance) (field : String) (related : Instance) :
    MapsFirst (session.linkOne owner field related) :=
  MapsFirst.settle_bind fun _ _ => MapsFirst.settle_bind fun _ _ => .of_yields (Yields.execute _)

end Session

/-! ## Links to given keys -/

/-- The operation makes the links of an instance those to some keys, but the keys cannot be
written: the other side has no storage type. The removal of the other links can be written. -/
inductive Catalog.LinksUntyped (catalog : Catalog) : SessionOperation → Prop where
  | reconcile {item : Instance} {field : String} {key : Value} {keys : List Value}
      {relationship : Relationship} {removal : Statement} {own other : Side} {fault : Error} :
      catalog.relationship item.entity field = .ok relationship →
      catalog.deleteStaleLinks relationship item (key :: keys) = .ok removal →
      relationship.sides item.entity = .ok (own, other) →
      catalog.storageType other.entity other.field = .error fault →
      LinksUntyped catalog (.reconcile item field (key :: keys))

namespace Session

open SessionStep

variable {session : Session}

theorem yields_insertLinks {relationship : Relationship} {item : Instance} {keys : List Value}
    (compiled : ∀ key ∈ keys, ∃ statement,
      session.catalog.insertLink relationship item key = .ok statement) :
    Yields (fun _ => True) (session.insertLinks relationship item keys) := by
  induction keys with
  | nil => exact .pure trivial
  | cons key rest ih =>
      obtain ⟨⟨statement, first⟩, others⟩ := List.forall_mem_cons.mp compiled
      exact (Yields.settle first).bind fun _ _ => (Yields.execute _).bind fun _ _ =>
        (ih others).bind fun _ _ => .pure trivial

theorem mapsFirst_reconcile {item : Instance} {field : String} {keys : List Value}
    (typed : ¬ session.catalog.LinksUntyped (.reconcile item field keys)) :
    MapsFirst (session.reconcile item field keys) := by
  refine MapsFirst.settle_bind fun relationship resolved => ?_
  refine MapsFirst.settle_bind fun removal compiled => .of_yields ?_
  obtain ⟨table, own, other, owner, tabled, sided, owned, -⟩ :=
    Catalog.deleteStaleLinks_eq_ok.mp compiled
  have inserts : ∀ key ∈ keys, ∃ statement,
      session.catalog.insertLink relationship item key = .ok statement := by
    intro key member
    cases otherTyped : session.catalog.storageType other.entity other.field with
    | ok type =>
        have written := Catalog.sideLiteral_of_storageType otherTyped key
        exact ⟨_, Catalog.insertLink_eq_ok.mpr
          ⟨table, own, other, owner, tabled, sided, owned, _, written, rfl⟩⟩
    | error fault =>
        cases keys with
        | nil => cases member
        | cons first rest => exact absurd (.reconcile resolved compiled sided otherTyped) typed
  exact (Yields.execute _).bind fun _ _ => (yields_insertLinks inserts).bind fun _ _ =>
    .pure trivial

theorem log_run (statement : Statement) (state : SessionState) :
    (run statement state).2.log = state.log ++ [sentChange statement] := by
  unfold run execute
  cases state.script.changes with
  | nil => rfl
  | cons answer rest => cases answer <;> rfl

theorem log_of_linksUntyped (session : Session) {operation : SessionOperation}
    (untyped : session.catalog.LinksUntyped operation)
    (state : SessionState) :
    ∃ removal, (session.perform operation state).2.log = state.log ++ [sentChange removal] := by
  cases untyped with
  | @reconcile item field key keys relationship removal own other fault resolved compiled sided
      untyped =>
    obtain ⟨table, own, other, owner, tabled, sides, owned, -⟩ :=
      Catalog.deleteStaleLinks_eq_ok.mp compiled
    rw [← Relationship.joinTable_iff] at tabled
    rw [sided] at sides
    cases sides
    have unwritten : session.catalog.sideLiteral other key = .error fault := by
      rw [Catalog.sideLiteral, untyped]
      rfl
    have refused : session.catalog.insertLink relationship item key = .error fault := by
      simp only [Catalog.insertLink, tabled, sided, owned, unwritten, bind, Except.bind]
    refine ⟨removal, ?_⟩
    rw [perform, map_apply, reconcile, resolved, settle_ok_bind, compiled, settle_ok_bind,
      ← log_run removal]
    rcases ran : run removal state with ⟨outcome, after⟩
    cases outcome with
    | error reported => rw [bind_of_error ran]
    | ok rows =>
        rw [bind_of_ok ran, insertLinks, refused]
        rfl

theorem mapsFirst_perform (makes : session.factory.MakesRecords) {operation : SessionOperation}
    (typed : ¬ session.catalog.LinksUntyped operation) : MapsFirst (session.perform operation) := by
  cases operation with
  | list query => exact (mapsFirst_list makes query).map _
  | unique query => exact (mapsFirst_unique makes query).map _
  | count query => exact (mapsFirst_count query).map _
  | load entity key => exact (mapsFirst_load makes entity key).map _
  | loadDeferred reference => exact (mapsFirst_loadDeferred makes reference).map _
  | related item field => exact (mapsFirst_related makes item field).map _
  | cache record => exact (MapsFirst.of_keepsStorage (.cache session record)).map _
  | isCached item => exact (MapsFirst.of_keepsStorage fun _ => rfl).map _
  | cached entity key => exact (MapsFirst.of_keepsStorage (.cached? session entity key)).map _
  | clearCache => exact (MapsFirst.of_keepsStorage fun _ => rfl).map _
  | createTables => exact mapsFirst_createTables.map _
  | dropTables => exact mapsFirst_dropTables.map _
  | execute sql => exact (MapsFirst.of_yields (Yields.execute sql)).map _
  | save record => exact (mapsFirst_save record).map _
  | update record => exact (mapsFirst_update record).map _
  | delete record => exact (mapsFirst_delete record).map _
  | linkMany owner field relatedKeys => exact (mapsFirst_linkMany owner field relatedKeys).map _
  | linkOne owner field related => exact (mapsFirst_linkOne owner field related).map _
  | reconcile item field relatedKeys => exact (mapsFirst_reconcile typed).map _

/-- An operation that fails by mapping has left storage alone, exactly if it is not one that
makes links those to keys that cannot be written. -/
theorem untouched_iff_of_isMapping {catalog : Catalog} {operation : SessionOperation}
    {state after : SessionState} {fault : Error}
    (failed : Session.perform { catalog } operation state = (.error fault, after))
    (isMapping : fault.isMapping = true) :
    (after.log = state.log ∧ after.script = state.script) ↔ ¬ catalog.LinksUntyped operation := by
  constructor
  · rintro ⟨log, -⟩ untyped
    obtain ⟨removal, sent⟩ := log_of_linksUntyped { catalog } untyped state
    rw [failed] at sent
    simp [log] at sent
  · intro typed
    exact mapsFirst_perform Factory.makesRecords_plain typed state fault after failed isMapping

/-- The books of an author refer to it. That no join table has their links comes out before the
statements for them, which storage would have run. -/
theorem untouched_iff_of_isMapping_books :
    let author : Record := ⟨"Author", [("id", .int64 7)]⟩
    let operation := .reconcile author.toInstance "books" [.string "first", .string "second"]
    let state : SessionState := .initial 1000 .evict { changes := [.ok 0, .ok 1, .ok 1] }
    let fault := .wrongCardinality "books" .oneToMany .manyToMany
    ∃ after, Session.perform { catalog := Catalog.libraryCatalog } operation state =
        (.error fault, after) ∧
      fault.isMapping = true ∧
      ((after.log = state.log ∧ after.script = state.script) ↔
        ¬ Catalog.libraryCatalog.LinksUntyped operation) :=
  ⟨_, rfl, rfl, untouched_iff_of_isMapping rfl rfl⟩

/-- Persons and their clubs. A club is told by its owner, but what owns clubs is unknown. -/
def ownedClubs : Catalog where
  schema := ⟨[
    { name := "Person"
      fields := [
        { name := "id", type := .scalar .int64, isPrimaryKey := true },
        { name := "clubs"
          type := .association ⟨"clubs", "Club", .manyToMany "membership" "id" "owner"⟩ }] },
    { name := "Club"
      fields := [
        { name := "id", type := .scalar .int64, isPrimaryKey := true },
        { name := "owner"
          type := .association ⟨"owner", "Ghost", .oneToOne "owner_id"⟩ }] }]⟩

/-- The clubs of a person are dropped before the owner of clubs turns out to be unknown. -/
theorem not_untouched_ownedClubs :
    ∃ after, Session.perform { catalog := ownedClubs }
        (.reconcile member.toInstance "clubs" [.int64 1]) freshState =
      (.error (.mapping (.unknownEntity "Ghost")), after) ∧
      (Error.mapping (.unknownEntity "Ghost")).isMapping = true ∧
      after.log = freshState.log ++
        [.execute "DELETE FROM membership WHERE person_id = 7 AND club_owner_id NOT IN (1)"] ∧
      after.log ≠ freshState.log := by
  refine ⟨_, rfl, rfl, rfl, ?_⟩
  decide

end Session

end Persistence
