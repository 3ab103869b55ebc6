import Persistence.Proofs.Session.CacheTrace
import Persistence.Proofs.Session.Counting

/-!
# The only row of a query

What a session reads when it expects at most one row, against the list of all rows. Both send
the same query, make their records by the same factory and insert them into the cache when the
result has been read, so that they differ only where there are several rows.
-/

set_option autoImplicit false

namespace Persistence

/-! ## Outcomes of steps -/

namespace SessionStep

variable {α β : Type}

/-- The outcome of the step, whatever the state in which it starts. -/
def HasOutcome (step : SessionStep α) (outcome : Except Error α) : Prop :=
  ∀ state, (step state).1 = outcome

namespace HasOutcome

theorem pure (value : α) : HasOutcome (Pure.pure value) (.ok value) := fun _ => rfl

theorem create_plain (mapping : Mapping) (row : Row) :
    HasOutcome (create .plain mapping row) (row.toRecord mapping) := fun _ => rfl

theorem bind {step : SessionStep α} {next : α → SessionStep β} {outcome : Except Error α}
    {result : α → Except Error β} (first : HasOutcome step outcome)
    (continued : ∀ value, HasOutcome (next value) (result value)) :
    HasOutcome (step >>= next) (outcome >>= result) := by
  intro state
  rw [← first state]
  rcases ended : step state with ⟨own, middle⟩
  cases own with
  | error fault =>
      rw [bind_of_error ended]
      rfl
  | ok value =>
      rw [bind_of_ok ended]
      exact continued value middle

theorem note_bind (event : Event) {next : Unit → SessionStep β} {outcome : Except Error β}
    (continued : HasOutcome (next ()) outcome) : HasOutcome (note event >>= next) outcome :=
  fun state => continued { state with log := state.log ++ [event] }

theorem createAll_plain (mapping : Mapping) (columns : List String) (rows : List (List Value)) :
    HasOutcome (createAll .plain mapping columns rows)
      (rows.mapM fun cells => Row.toRecord ⟨columns, cells⟩ mapping) := by
  induction rows with
  | nil => exact note_bind .advanced (pure [])
  | cons cells rest ih =>
      rw [List.mapM_cons]
      refine note_bind .advanced ?_
      refine (create_plain mapping ⟨columns, cells⟩).bind fun record => ?_
      exact ih.bind fun records => pure (record :: records)

end HasOutcome

end SessionStep

/-! ## Records inserted -/

/-- The second cache is the first one with the records inserted one by one, each under the hash of
its identity. -/
inductive InsertsInOrder (catalog : Catalog) : Cache Record → List Record → Cache Record → Prop
  | nil (cache : Cache Record) : InsertsInOrder catalog cache [] cache
  | cons {cache after : Cache Record} {record : Record} {rest : List Record} {hash : Int32}
      (hashed : catalog.identityHashOf record.toInstance = .ok hash)
      (others : InsertsInOrder catalog (cache.insert hash record).2 rest after) :
      InsertsInOrder catalog cache (record :: rest) after

theorem insertsInOrder_of_hashed {catalog : Catalog} {records : List Record}
    (hashed : ∀ record ∈ records, ∃ hash,
      catalog.identityHashOf record.toInstance = .ok hash) (cache : Cache Record) :
    InsertsInOrder catalog cache records
      (CacheEvent.applyAll catalog cache (records.map .presented)) := by
  induction records generalizing cache with
  | nil => exact .nil cache
  | cons record rest ih =>
      obtain ⟨⟨hash, recordHashed⟩, othersHashed⟩ := List.forall_mem_cons.mp hashed
      apply InsertsInOrder.cons recordHashed
      rw [← CacheEvent.apply_presented recordHashed]
      exact ih othersHashed _

namespace Session

open SessionStep

variable {session : Session} {query : Query} {state : SessionState} {mapping : Mapping}
  {sql : String} {columns : List String} {rows : List (List Value)}

theorem exists_mapping_of_selectText (compiled : session.selectText query = .ok sql) :
    ∃ mapping, session.catalog.mapping query.entity = .ok mapping := by
  rw [selectText] at compiled
  cases selected : session.catalog.select query with
  | error fault =>
      rw [selected] at compiled
      cases compiled
  | ok statement =>
      obtain ⟨mapping, mapped, -⟩ := bind_eq_ok.mp selected
      exact ⟨mapping, mapped⟩

theorem exists_hash_of_toRecord (mapped : session.catalog.mapping query.entity = .ok mapping)
    {row : Row} {record : Record} (made : row.toRecord mapping = .ok record) :
    ∃ hash, session.catalog.identityHashOf record.toInstance = .ok hash :=
  exists_identityHashOf mapped (@Factory.keepsEntity_plain 0 mapping row record made)

/-! ## Outcomes of reading -/

/-- What is read is what is answered, as every record that is read can be put into the cache. -/
theorem fst_presenting {α : Type} (recordsOf : α → List Record) {step : SessionStep α}
    {outcome : Except Error α} (ended : (step state).1 = outcome)
    (hashed : ∀ value, outcome = .ok value → ∀ record ∈ recordsOf value, ∃ hash,
      session.catalog.identityHashOf record.toInstance = .ok hash) :
    ((step >>= fun value => session.cacheAll (recordsOf value) >>= fun _ => pure value)
      state).1 = outcome := by
  rcases reached : step state with ⟨own, middle⟩
  rw [reached] at ended
  subst ended
  cases own with
  | error fault => rw [bind_of_error reached]
  | ok value =>
      obtain ⟨after, cached, -⟩ := cacheAll_of_hashed (hashed value rfl) middle
      rw [bind_of_ok reached, bind_of_ok cached]
      rfl

theorem hashed_of_mapM (mapped : session.catalog.mapping query.entity = .ok mapping)
    {records : List Record}
    (listed : (rows.mapM fun cells => Row.toRecord ⟨columns, cells⟩ mapping) = .ok records) :
    ∀ record ∈ records, ∃ hash,
      session.catalog.identityHashOf record.toInstance = .ok hash := by
  intro record member
  obtain ⟨cells, -, made⟩ := (mem_results_iff (mapM_eq_ok.mp listed)).mp member
  exact exists_hash_of_toRecord mapped made

theorem fst_list (plain : session.factory = .plain)
    (mapped : session.catalog.mapping query.entity = .ok mapping)
    (compiled : session.selectText query = .ok sql)
    (scripted : state.script.results.head? = some (.ok (.ofRows columns rows))) :
    (session.list query state).1 =
      rows.mapM fun cells => Row.toRecord ⟨columns, cells⟩ mapping := by
  simp only [list, mapped, compiled, plain, settle_ok_bind]
  apply fst_presenting fun records => records
  · obtain ⟨opened, worked⟩ := withCursor_of_scripted scripted _
    rw [worked]
    cases rows with
    | nil => rfl
    | cons cells rest => exact HasOutcome.createAll_plain mapping columns (cells :: rest) opened
  · exact fun records listed => hashed_of_mapM mapped listed

/-- The record of the only row, given what becomes of each row. -/
def onlyRecord (entity : String) (read : List Value → Except Error Record) :
    List (List Value) → Except Error (Option Record)
  | [] => .ok none
  | [cells] => (read cells).map some
  | rows => .error (.nonUniqueResult entity rows.length)

theorem exists_read_of_mem {entity : String} {read : List Value → Except Error Record}
    {found : Option Record} (answered : onlyRecord entity read rows = .ok found)
    {record : Record} (member : record ∈ found.toList) :
    ∃ cells, read cells = .ok record := by
  match rows with
  | [] =>
      cases answered
      cases member
  | [cells] =>
      rw [onlyRecord] at answered
      cases made : read cells with
      | error fault =>
          rw [made] at answered
          cases answered
      | ok own =>
          rw [made] at answered
          cases answered
          cases List.mem_singleton.mp member
          exact ⟨cells, made⟩
  | _ :: _ :: _ => cases answered

theorem hashed_of_onlyRecord (mapped : session.catalog.mapping query.entity = .ok mapping)
    {entity : String} {found : Option Record}
    (answered : onlyRecord entity (fun cells => Row.toRecord ⟨columns, cells⟩ mapping) rows =
      .ok found) :
    ∀ record ∈ found.toList, ∃ hash,
      session.catalog.identityHashOf record.toInstance = .ok hash := by
  intro record member
  obtain ⟨cells, made⟩ := exists_read_of_mem answered member
  exact exists_hash_of_toRecord mapped made

theorem fst_unique (plain : session.factory = .plain)
    (mapped : session.catalog.mapping query.entity = .ok mapping)
    (compiled : session.selectText query = .ok sql)
    (scripted : state.script.results.head? = some (.ok (.ofRows columns rows))) :
    (session.unique query state).1 =
      onlyRecord query.entity (fun cells => Row.toRecord ⟨columns, cells⟩ mapping) rows := by
  simp only [unique, mapped, compiled, plain, settle_ok_bind]
  apply fst_presenting Option.toList
  · obtain ⟨opened, worked⟩ := withCursor_of_scripted scripted _
    rw [worked]
    match rows with
    | [] => rfl
    | [cells] =>
        refine HasOutcome.note_bind .rewound ?_ opened
        exact (HasOutcome.create_plain mapping ⟨columns, cells⟩).bind fun record => .pure (some record)
    | _ :: _ :: _ => rfl
  · exact fun found answered => hashed_of_onlyRecord mapped answered

/-! ## The only row and the list -/

/-- What the two ways of reading a query answer, given the rows of its result and what becomes of
each. -/
inductive AnswersAgree (entity : String) (read : List Value → Except Error Record) :
    List (List Value) → Except Error (List Record) → Except Error (Option Record) → Prop
  | none : AnswersAgree entity read [] (.ok []) (.ok none)
  | one {cells : List Value} {record : Record} (made : read cells = .ok record) :
      AnswersAgree entity read [cells] (.ok [record]) (.ok (some record))
  | failed {cells : List Value} {fault : Error} (refused : read cells = .error fault) :
      AnswersAgree entity read [cells] (.error fault) (.error fault)
  | several {rows : List (List Value)} {listed : Except Error (List Record)}
      (many : 2 ≤ rows.length)
      (ordered : ∀ records, listed = .ok records ↔
        List.Forall₂ (fun cells record => read cells = .ok record) rows records) :
      AnswersAgree entity read rows listed (.error (.nonUniqueResult entity rows.length))

theorem answersAgree_mapM (entity : String) (read : List Value → Except Error Record)
    (rows : List (List Value)) :
    AnswersAgree entity read rows (rows.mapM read) (onlyRecord entity read rows) := by
  match rows with
  | [] => exact .none
  | [cells] =>
      rw [onlyRecord, List.mapM_cons, List.mapM_nil]
      cases outcome : read cells with
      | error fault => exact .failed outcome
      | ok record => exact .one outcome
  | first :: second :: rest => exact .several (by simp) fun records => mapM_eq_ok

/-- On the same answer of storage and from the same state, the only row and the list agree where
there is no row or one. Several rows are an error that names their number and leaves the cache
alone, while the list has a record for each of them. Whatever is returned has been inserted into
the cache in order. -/
theorem unique_agrees_list (plain : session.factory = .plain)
    (compiled : session.selectText query = .ok sql)
    (scripted : state.script.results.head? = some (.ok (.ofRows columns rows))) :
    ∃ mapping, session.catalog.mapping query.entity = .ok mapping ∧
      AnswersAgree query.entity (fun cells => Row.toRecord ⟨columns, cells⟩ mapping) rows
        (session.list query state).1 (session.unique query state).1 ∧
      (2 ≤ rows.length → (session.unique query state).2.cache = state.cache) ∧
      (∀ records, (session.list query state).1 = .ok records →
        InsertsInOrder session.catalog state.cache records
          (session.list query state).2.cache) ∧
      (∀ found, (session.unique query state).1 = .ok found →
        InsertsInOrder session.catalog state.cache found.toList
          (session.unique query state).2.cache) := by
  obtain ⟨mapping, mapped⟩ := exists_mapping_of_selectText compiled
  have listOutcome := fst_list plain mapped compiled scripted
  have onlyOutcome := fst_unique plain mapped compiled scripted
  have keepsEntity : session.factory.KeepsEntity := by
    rw [plain]
    exact Factory.keepsEntity_plain
  have listCache := tells_list keepsEntity query state
  have onlyCache := tells_unique keepsEntity query state
  refine ⟨mapping, mapped, ?_, ?_, ?_, ?_⟩
  · rw [listOutcome, onlyOutcome]
    exact answersAgree_mapM query.entity _ rows
  · intro many
    match rows with
    | _ :: _ :: _ =>
        rw [onlyOutcome] at onlyCache
        exact onlyCache
  · intro records listed
    rw [listCache, listed]
    exact insertsInOrder_of_hashed (hashed_of_mapM mapped (listOutcome.symm.trans listed)) _
  · intro found answered
    rw [onlyCache, answered]
    exact insertsInOrder_of_hashed
      (hashed_of_onlyRecord mapped (onlyOutcome.symm.trans answered)) _

/-! ## Three notes -/

def threeNotes : List (List Value) := [[.int64 1], [.int64 2], [.int64 3]]

theorem unique_agrees_list_notes :
    ∃ mapping, noteCatalog.mapping "Note" = .ok mapping ∧
      AnswersAgree "Note" (fun cells => Row.toRecord ⟨["id"], cells⟩ mapping) threeNotes
        (Session.list { catalog := noteCatalog } { entity := "Note" }
          (answering (.ofRows ["id"] threeNotes))).1
        (Session.unique { catalog := noteCatalog } { entity := "Note" }
          (answering (.ofRows ["id"] threeNotes))).1 ∧
      (2 ≤ threeNotes.length →
        (Session.unique { catalog := noteCatalog } { entity := "Note" }
          (answering (.ofRows ["id"] threeNotes))).2.cache = .empty 1000 .evict) ∧
      (∀ records,
        (Session.list { catalog := noteCatalog } { entity := "Note" }
          (answering (.ofRows ["id"] threeNotes))).1 = .ok records →
        InsertsInOrder noteCatalog (.empty 1000 .evict) records
          (Session.list { catalog := noteCatalog } { entity := "Note" }
            (answering (.ofRows ["id"] threeNotes))).2.cache) ∧
      (∀ found,
        (Session.unique { catalog := noteCatalog } { entity := "Note" }
          (answering (.ofRows ["id"] threeNotes))).1 = .ok found →
        InsertsInOrder noteCatalog (.empty 1000 .evict) found.toList
          (Session.unique { catalog := noteCatalog } { entity := "Note" }
            (answering (.ofRows ["id"] threeNotes))).2.cache) :=
  @unique_agrees_list { catalog := noteCatalog } { entity := "Note" }
    (answering (.ofRows ["id"] threeNotes)) "SELECT * FROM note" ["id"] threeNotes rfl rfl rfl

end Session

end Persistence
