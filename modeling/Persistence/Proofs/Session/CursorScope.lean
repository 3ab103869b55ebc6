import Mathlib.Data.List.Forall2
import Persistence.Proofs.Session.Operation
import Persistence.Proofs.Session.Sent

/-!
# Scopes of cursors

Every cursor that storage hands out is closed once, by the operation that has it opened and
behind everything that is done with it, whether the operation succeeds or fails. Where storage
hands out no cursor, none is closed. What an operation does with storage is read off the log,
next to what storage answers: changes, queries that are not answered, and queries whose cursor
is used and then closed.
-/

set_option autoImplicit false

namespace Persistence

/-! ## Scopes -/

/-- Whether the event moves an open cursor or reads a value from it. -/
def Event.usesCursor : Event → Bool
  | .advanced | .rewound | .created | .read => true
  | _ => false

/-- Whether the event needs a cursor that is open. -/
def Event.needsCursor (event : Event) : Bool := event.usesCursor || event == .closed

/-- Next to the answers of storage, whatever is done with a cursor is done between its opening
and its only closing. A query that fails, for want of an answer or by one, opens none. -/
inductive CursorsClosed : List (Except String ResultSet) → List Event → Prop where
  | nil : CursorsClosed [] []
  | changed {sql answers rest} :
      CursorsClosed answers rest → CursorsClosed answers (.execute sql :: rest)
  | unanswered {sql isCacheable answers rest} :
      CursorsClosed answers rest → CursorsClosed answers (.query sql isCacheable :: rest)
  | failed {sql isCacheable words answers rest} :
      CursorsClosed answers rest →
      CursorsClosed (.error words :: answers) (.query sql isCacheable :: rest)
  | answered {sql isCacheable result uses answers rest} :
      (∀ event ∈ uses, event.usesCursor = true) → CursorsClosed answers rest →
      CursorsClosed (.ok result :: answers)
        (.query sql isCacheable :: .opened :: (uses ++ .closed :: rest))

namespace CursorsClosed

variable {answers : List (Except String ResultSet)} {events : List Event}

theorem append {others : List (Except String ResultSet)} {more : List Event}
    (left : CursorsClosed answers events) (right : CursorsClosed others more) :
    CursorsClosed (answers ++ others) (events ++ more) := by
  induction left with
  | nil => exact right
  | changed _ ih => exact .changed ih
  | unanswered _ ih => exact .unanswered ih
  | failed _ ih => exact .failed ih
  | answered used _ ih =>
      rw [List.cons_append, List.cons_append, List.cons_append, List.append_assoc,
        List.cons_append]
      exact .answered used ih

theorem flatten {parts : List (List Event)} {taken : List (List (Except String ResultSet))}
    (closed : List.Forall₂ CursorsClosed taken parts) :
    CursorsClosed taken.flatten parts.flatten := by
  induction closed with
  | nil => exact .nil
  | cons first _ ih => exact first.append ih

theorem count_of_uses {uses : List Event} (used : ∀ event ∈ uses, event.usesCursor = true)
    (event : Event) (other : event.usesCursor = false) : uses.count event = 0 := by
  refine List.count_eq_zero.mpr fun member => ?_
  rw [used event member] at other
  cases other

theorem count_opened (closed : CursorsClosed answers events) :
    events.count .opened = answers.countP Except.isOk := by
  induction closed with
  | nil => rfl
  | changed _ ih => simpa using ih
  | unanswered _ ih => simpa using ih
  | failed _ ih => simpa [Except.isOk, Except.toBool] using ih
  | @answered _ _ result _ _ _ used _ ih =>
      have ends : Except.isOk (Except.ok result : Except String ResultSet) = true := rfl
      simp [List.count_append, count_of_uses used .opened rfl, ih, ends]

theorem count_closed (closed : CursorsClosed answers events) :
    events.count .closed = events.count .opened := by
  induction closed with
  | nil => rfl
  | changed _ ih => simpa using ih
  | unanswered _ ih => simpa using ih
  | failed _ ih => simpa using ih
  | answered used _ ih =>
      simp [List.count_append, count_of_uses used .opened rfl,
        count_of_uses used .closed rfl, ih]

end CursorsClosed

/-- One cursor is open whenever one is needed, and none at any other time. -/
def OpenAsNeeded (events : List Event) : Prop :=
  ∀ earlier event later, events = earlier ++ event :: later →
    earlier.count .opened = earlier.count .closed + event.needsCursor.toNat

namespace OpenAsNeeded

theorem singleton {event : Event} (free : event.needsCursor = false) : OpenAsNeeded [event] := by
  intro earlier other later split
  cases earlier with
  | nil =>
      obtain rfl : event = other := (List.cons.inj split).1
      rw [free]
      rfl
  | cons first rest =>
      have rest : [] = rest ++ other :: later := (List.cons.inj split).2
      simp at rest

theorem append {first second : List Event} (left : OpenAsNeeded first)
    (balanced : first.count .opened = first.count .closed) (right : OpenAsNeeded second) :
    OpenAsNeeded (first ++ second) := by
  intro earlier event later split
  rcases List.append_eq_append_iff.mp split with ⟨middle, rfl, rest⟩ | ⟨middle, rfl, rest⟩
  · have := right middle event later rest
    rw [List.count_append, List.count_append, balanced, this, Nat.add_assoc]
  · cases middle with
    | nil =>
        rw [List.append_nil] at balanced
        have needed : 0 = event.needsCursor.toNat := by simpa using right [] event later rest.symm
        rw [balanced, ← needed, Nat.add_zero]
    | cons head tail =>
        obtain ⟨rfl, rfl⟩ := List.cons.inj rest
        exact left earlier event tail rfl

/-- While a cursor is open only what needs one happens, and its closing comes last. -/
theorem scope (sql : String) (isCacheable : Bool) {uses : List Event}
    (used : ∀ event ∈ uses, event.usesCursor = true) :
    OpenAsNeeded (.query sql isCacheable :: .opened :: (uses ++ [.closed])) := by
  intro earlier event later split
  match earlier with
  | [] =>
      obtain ⟨rfl, -⟩ := List.cons.inj split
      rfl
  | [first] =>
      obtain ⟨rfl, rest⟩ := List.cons.inj split
      obtain ⟨rfl, -⟩ := List.cons.inj rest
      rfl
  | first :: second :: done =>
      obtain ⟨rfl, rest⟩ := List.cons.inj split
      obtain ⟨rfl, work⟩ := List.cons.inj rest
      -- Only uses come before the event, since the closing is the last of all.
      have worked : ∀ happened ∈ done, happened.usesCursor = true := by
        intro happened member
        have shortened : uses = done ++ (event :: later).dropLast := by
          simpa using congrArg List.dropLast work
        exact used happened (shortened ▸ List.mem_append_left _ member)
      have needed : event.needsCursor = true := by
        have member : event ∈ uses ++ [.closed] := by simp [work]
        rcases List.mem_append.mp member with inUses | isLast
        · rw [Event.needsCursor, used event inUses, Bool.true_or]
        · rw [List.mem_singleton.mp isLast]
          rfl
      simp [CursorsClosed.count_of_uses worked .opened rfl,
        CursorsClosed.count_of_uses worked .closed rfl, needed]

end OpenAsNeeded

theorem CursorsClosed.openAsNeeded {answers : List (Except String ResultSet)}
    {events : List Event} (closed : CursorsClosed answers events) : OpenAsNeeded events := by
  induction closed with
  | nil =>
      intro earlier event later split
      simp at split
  | changed _ ih => exact (OpenAsNeeded.singleton rfl).append rfl ih
  | unanswered _ ih => exact (OpenAsNeeded.singleton rfl).append rfl ih
  | failed _ ih => exact (OpenAsNeeded.singleton rfl).append rfl ih
  | @answered sql isCacheable _ uses _ rest used _ ih =>
      have split : Event.query sql isCacheable :: .opened :: (uses ++ .closed :: rest) =
          (.query sql isCacheable :: .opened :: (uses ++ [.closed])) ++ rest := by
        rw [List.cons_append, List.cons_append, List.append_assoc, List.singleton_append]
      rw [split]
      refine (OpenAsNeeded.scope sql isCacheable used).append ?_ ih
      simp [CursorsClosed.count_of_uses used .opened rfl,
        CursorsClosed.count_of_uses used .closed rfl]

/-! ## Exchanges with storage -/

/-- Between the two states storage gives the answers and the events happen. -/
structure Exchange (before after : SessionState) (answers : List (Except String ResultSet))
    (events : List Event) : Prop where
  log : after.log = before.log ++ events
  results : before.script.results = answers ++ after.script.results

namespace Exchange

variable {before middle after : SessionState} {answers others : List (Except String ResultSet)}
  {events more : List Event}

theorem of_eq (log : after.log = before.log) (script : after.script = before.script) :
    Exchange before after [] [] where
  log := by rw [log, List.append_nil]
  results := by rw [script, List.nil_append]

theorem trans (left : Exchange before middle answers events)
    (right : Exchange middle after others more) :
    Exchange before after (answers ++ others) (events ++ more) where
  log := by rw [right.log, left.log, List.append_assoc]
  results := by rw [left.results, right.results, List.append_assoc]

/-- The events are those behind the log before. -/
theorem drop_log (exchange : Exchange before after answers events) :
    after.log.drop before.log.length = events := by
  rw [exchange.log, List.drop_left]

end Exchange

namespace SessionStep

variable {α β : Type}

/-- Whatever its outcome, the step has an exchange with storage of a certain form. -/
def Exchanges (form : List (Except String ResultSet) → List Event → Prop)
    (step : SessionStep α) : Prop :=
  ∀ state, ∃ answers events, Exchange state (step state).2 answers events ∧ form answers events

namespace Exchanges

variable {form : List (Except String ResultSet) → List Event → Prop}

theorem of_keepsStorage (nil : form [] []) {step : SessionStep α} (keeps : KeepsStorage step) :
    Exchanges form step := by
  intro state
  obtain ⟨log, script⟩ := Prod.mk.inj (keeps state)
  exact ⟨[], [], .of_eq log script, nil⟩

theorem bind
    (append : ∀ {answers events others more}, form answers events → form others more →
      form (answers ++ others) (events ++ more))
    {step : SessionStep α} {next : α → SessionStep β} (exchanges : Exchanges form step)
    (othersExchange : ∀ value, Exchanges form (next value)) :
    Exchanges form (step >>= next) := by
  intro state
  obtain ⟨answers, events, exchange, formed⟩ := exchanges state
  rcases ended : step state with ⟨outcome, middle⟩
  rw [ended] at exchange
  cases outcome with
  | error fault =>
      rw [bind_of_error ended]
      exact ⟨answers, events, exchange, formed⟩
  | ok value =>
      obtain ⟨others, more, otherExchange, othersFormed⟩ := othersExchange value middle
      rw [bind_of_ok ended]
      exact ⟨_, _, exchange.trans otherExchange, append formed othersFormed⟩

end Exchanges

/-- A query fails without a cursor, or it takes a result from the script and opens one. -/
theorem query_cases (sql : String) (isCacheable : Bool) (state : SessionState) :
    (∃ fault after answers, query sql isCacheable state = (.error fault, after) ∧
      Exchange state after answers [.query sql isCacheable] ∧
      CursorsClosed answers [.query sql isCacheable]) ∨
    ∃ result after, query sql isCacheable state = (.ok result, after) ∧
      Exchange state after [.ok result] [.query sql isCacheable, .opened] := by
  unfold query
  cases taken : state.script.results with
  | nil => exact .inl ⟨_, _, [], rfl, ⟨rfl, rfl⟩, .unanswered .nil⟩
  | cons answer rest =>
      cases answer with
      | error words => exact .inl ⟨_, _, [.error words], rfl, ⟨rfl, taken⟩, .failed .nil⟩
      | ok result => exact .inr ⟨_, _, rfl, List.append_assoc _ _ _, taken⟩

/-! ## Work on an open cursor -/

/-- Whatever its outcome, the step does nothing but use the cursor that is open. -/
def OnlyUses (step : SessionStep α) : Prop :=
  Exchanges (fun answers events => answers = [] ∧ ∀ event ∈ events, event.usesCursor = true) step

namespace OnlyUses

theorem settle (outcome : Except Error α) : OnlyUses (settle outcome) :=
  Exchanges.of_keepsStorage ⟨rfl, List.forall_mem_nil _⟩ (.settle outcome)

theorem pure (value : α) : OnlyUses (Pure.pure value : SessionStep α) :=
  Exchanges.of_keepsStorage ⟨rfl, List.forall_mem_nil _⟩ (.pure value)

theorem bind {step : SessionStep α} {next : α → SessionStep β} (uses : OnlyUses step)
    (others : ∀ value, OnlyUses (next value)) : OnlyUses (step >>= next) := by
  refine Exchanges.bind ?_ uses others
  rintro answers events others more ⟨rfl, used⟩ ⟨rfl, othersUsed⟩
  exact ⟨rfl, List.forall_mem_append.mpr ⟨used, othersUsed⟩⟩

theorem note {event : Event} (uses : event.usesCursor = true) : OnlyUses (note event) := by
  intro state
  exact ⟨[], [event], ⟨rfl, rfl⟩, rfl, List.forall_mem_singleton.mpr uses⟩

theorem create (factory : Factory) (mapping : Mapping) (row : Row) :
    OnlyUses (create factory mapping row) := by
  intro state
  exact ⟨[], [.created], ⟨rfl, rfl⟩, rfl, List.forall_mem_singleton.mpr rfl⟩

theorem createAll (factory : Factory) (mapping : Mapping) (columns : List String)
    (rows : List (List Value)) : OnlyUses (createAll factory mapping columns rows) := by
  induction rows with
  | nil => exact (note rfl).bind fun _ => .pure []
  | cons cells rest ih =>
      exact (note rfl).bind fun _ => (create factory mapping _).bind fun record =>
        ih.bind fun records => .pure (record :: records)

end OnlyUses

/-! ## Steps that close what they open -/

/-- Whatever its outcome, the step closes every cursor that it opens. -/
def ClosesCursors (step : SessionStep α) : Prop := Exchanges CursorsClosed step

namespace ClosesCursors

theorem of_keepsStorage {step : SessionStep α} (keeps : KeepsStorage step) : ClosesCursors step :=
  Exchanges.of_keepsStorage .nil keeps

theorem settle (outcome : Except Error α) : ClosesCursors (settle outcome) :=
  of_keepsStorage (.settle outcome)

theorem pure (value : α) : ClosesCursors (Pure.pure value : SessionStep α) :=
  of_keepsStorage (.pure value)

theorem bind {step : SessionStep α} {next : α → SessionStep β} (closes : ClosesCursors step)
    (others : ∀ value, ClosesCursors (next value)) : ClosesCursors (step >>= next) :=
  Exchanges.bind CursorsClosed.append closes others

theorem map {step : SessionStep α} (closes : ClosesCursors step) (translate : α → β) :
    ClosesCursors (translate <$> step) := by
  intro state
  rw [map_apply]
  exact closes state

theorem execute (sql : String) : ClosesCursors (execute sql) := by
  intro state
  refine ⟨[], [.execute sql], ?_, .changed .nil⟩
  unfold SessionStep.execute
  cases state.script.changes with
  | nil => exact ⟨rfl, rfl⟩
  | cons answer rest => cases answer <;> exact ⟨rfl, rfl⟩

theorem withCursor (sql : String) (isCacheable : Bool) {work : ResultSet → SessionStep α}
    (uses : ∀ result, OnlyUses (work result)) :
    ClosesCursors (SessionStep.withCursor sql isCacheable work) := by
  intro state
  rcases query_cases sql isCacheable state with
    ⟨fault, after, answers, failed, sent, closed⟩ | ⟨result, opened, answered, sent⟩
  · -- Without a cursor there is no work on one.
    rw [SessionStep.withCursor, bind_of_error failed]
    exact ⟨answers, _, sent, closed⟩
  · obtain ⟨_, events, worked, rfl, used⟩ := uses result opened
    rw [SessionStep.withCursor, bind_of_ok answered]
    refine ⟨_, _, sent.trans (worked.trans ?_), .answered used .nil⟩
    exact ⟨rfl, rfl⟩

end ClosesCursors

end SessionStep

/-! ## Operations -/

namespace Session

open SessionStep

variable (session : Session)

theorem closesCursors_cacheAll_pure {α : Type} (records : List Record) (value : α) :
    ClosesCursors (session.cacheAll records >>= fun _ => Pure.pure value) :=
  .of_keepsStorage ((KeepsStorage.cacheAll session records).bind fun _ => .pure value)

theorem closesCursors_list (query : Query) : ClosesCursors (session.list query) := by
  refine (ClosesCursors.settle _).bind fun mapping => (ClosesCursors.settle _).bind fun sql => ?_
  refine (ClosesCursors.withCursor sql true fun result => ?_).bind fun records =>
    closesCursors_cacheAll_pure session records records
  split
  · exact .pure []
  · exact .createAll _ _ _ _

theorem closesCursors_unique (query : Query) : ClosesCursors (session.unique query) := by
  refine (ClosesCursors.settle _).bind fun mapping => (ClosesCursors.settle _).bind fun sql => ?_
  refine (ClosesCursors.withCursor sql true fun result => ?_).bind fun found =>
    closesCursors_cacheAll_pure session found.toList found
  split
  · exact .pure none
  · exact (OnlyUses.note rfl).bind fun _ => (OnlyUses.create _ _ _).bind fun record =>
      .pure (some record)
  · exact .settle _

theorem closesCursors_count (query : Query) : ClosesCursors (session.count query) := by
  refine (ClosesCursors.settle _).bind fun statement => .withCursor _ _ fun result => ?_
  refine (OnlyUses.note rfl).bind fun _ => ?_
  split
  · exact .pure 0
  · refine (OnlyUses.note rfl).bind fun _ => (OnlyUses.settle _).bind fun number => ?_
    split
    · exact .settle _
    · exact .pure _

theorem closesCursors_load (entity : String) (key : Value) :
    ClosesCursors (session.load entity key) := by
  refine (ClosesCursors.of_keepsStorage (.cached? session entity key)).bind fun found => ?_
  cases found with
  | some record => exact .pure (some record)
  | none => exact (ClosesCursors.settle _).bind fun mapping => closesCursors_unique session _

theorem closesCursors_loadDeferred (reference : Deferred) :
    ClosesCursors (session.loadDeferred reference) := by
  unfold loadDeferred Deferred.load
  cases reference.loaded with
  | some record => exact .pure reference
  | none => exact (closesCursors_load session _ _).bind fun found => .pure _

theorem closesCursors_related (item : Instance) (field : String) :
    ClosesCursors (session.related item field) := by
  refine (ClosesCursors.settle _).bind fun _ => (ClosesCursors.settle _).bind fun _ => ?_
  refine (ClosesCursors.settle _).bind fun _ => (ClosesCursors.settle _).bind fun statement => ?_
  refine (ClosesCursors.settle _).bind fun mapping => ?_
  exact (ClosesCursors.withCursor _ true fun result => .createAll _ _ _ _).bind fun records =>
    closesCursors_cacheAll_pure session records records

theorem closesCursors_cache_pure {α : Type} (record : Record) (value : α) :
    ClosesCursors (session.cache record >>= fun _ => Pure.pure value) :=
  .of_keepsStorage ((KeepsStorage.cache session record).bind fun _ => .pure value)

theorem closesCursors_runAll (statements : List Statement) :
    ClosesCursors (runAll statements) := by
  induction statements with
  | nil => exact .pure ()
  | cons statement rest ih => exact (ClosesCursors.execute _).bind fun _ => ih

theorem closesCursors_createTables : ClosesCursors session.createTables :=
  (ClosesCursors.settle _).bind fun statements =>
    (closesCursors_runAll statements).bind fun _ => .pure _

theorem closesCursors_dropTables : ClosesCursors session.dropTables :=
  (ClosesCursors.settle _).bind fun statements =>
    (closesCursors_runAll statements).bind fun _ => .pure _

theorem closesCursors_save (record : Record) : ClosesCursors (session.save record) := by
  refine (ClosesCursors.settle _).bind fun statement => ?_
  refine (ClosesCursors.execute _).bind fun rows => ?_
  refine (ClosesCursors.settle _).bind fun lacksKey => ?_
  split
  · exact .pure rows
  · exact closesCursors_cache_pure session record rows

theorem closesCursors_update (record : Record) : ClosesCursors (session.update record) := by
  refine (ClosesCursors.settle _).bind fun statement => ?_
  cases statement with
  | none =>
      exact (ClosesCursors.pure 0).bind fun rows => closesCursors_cache_pure session record rows
  | some statement =>
      exact (ClosesCursors.execute _).bind fun rows =>
        closesCursors_cache_pure session record rows

theorem closesCursors_deleteAllLinks (item : Instance) (relationships : List Relationship) :
    ClosesCursors (session.deleteAllLinks item relationships) := by
  induction relationships with
  | nil => exact .pure ()
  | cons relationship rest ih =>
      exact (ClosesCursors.settle _).bind fun _ => (ClosesCursors.execute _).bind fun _ => ih

theorem closesCursors_delete (record : Record) : ClosesCursors (session.delete record) := by
  refine (ClosesCursors.settle _).bind fun relationships => ?_
  refine (closesCursors_deleteAllLinks session _ relationships).bind fun _ => ?_
  refine (ClosesCursors.settle _).bind fun statement => ?_
  refine (ClosesCursors.execute _).bind fun rows => ?_
  refine (ClosesCursors.settle _).bind fun hash => ?_
  exact .of_keepsStorage ((KeepsStorage.forget hash).bind fun _ => .pure rows)

theorem closesCursors_linkMany (owner : Instance) (field : String) (relatedKeys : List Value) :
    ClosesCursors (session.linkMany owner field relatedKeys) := by
  refine (ClosesCursors.settle _).bind fun _ => (ClosesCursors.settle _).bind fun statement => ?_
  cases statement with
  | none => exact .pure 0
  | some statement => exact .execute _

theorem closesCursors_linkOne (owner : Instance) (field : String) (related : Instance) :
    ClosesCursors (session.linkOne owner field related) :=
  (ClosesCursors.settle _).bind fun _ => (ClosesCursors.settle _).bind fun _ => .execute _

theorem closesCursors_insertLinks (relationship : Relationship) (item : Instance)
    (keys : List Value) : ClosesCursors (session.insertLinks relationship item keys) := by
  induction keys with
  | nil => exact .pure 0
  | cons key rest ih =>
      exact (ClosesCursors.settle _).bind fun _ => (ClosesCursors.execute _).bind fun _ =>
        ih.bind fun _ => .pure _

theorem closesCursors_reconcile (item : Instance) (field : String) (relatedKeys : List Value) :
    ClosesCursors (session.reconcile item field relatedKeys) :=
  (ClosesCursors.settle _).bind fun relationship => (ClosesCursors.settle _).bind fun _ =>
    (ClosesCursors.execute _).bind fun _ =>
      (closesCursors_insertLinks session relationship item relatedKeys).bind fun _ => .pure _

theorem closesCursors_perform (operation : SessionOperation) :
    ClosesCursors (session.perform operation) := by
  cases operation with
  | list query => exact (closesCursors_list session query).map _
  | unique query => exact (closesCursors_unique session query).map _
  | count query => exact (closesCursors_count session query).map _
  | load entity key => exact (closesCursors_load session entity key).map _
  | loadDeferred reference => exact (closesCursors_loadDeferred session reference).map _
  | related item field => exact (closesCursors_related session item field).map _
  | cache record => exact (ClosesCursors.of_keepsStorage (.cache session record)).map _
  | isCached item => exact (ClosesCursors.of_keepsStorage fun _ => rfl).map _
  | cached entity key => exact (ClosesCursors.of_keepsStorage (.cached? session entity key)).map _
  | clearCache => exact (ClosesCursors.of_keepsStorage fun _ => rfl).map _
  | createTables => exact (closesCursors_createTables session).map _
  | dropTables => exact (closesCursors_dropTables session).map _
  | execute sql => exact (ClosesCursors.execute sql).map _
  | save record => exact (closesCursors_save session record).map _
  | update record => exact (closesCursors_update session record).map _
  | delete record => exact (closesCursors_delete session record).map _
  | linkMany owner field relatedKeys =>
      exact (closesCursors_linkMany session owner field relatedKeys).map _
  | linkOne owner field related => exact (closesCursors_linkOne session owner field related).map _
  | reconcile item field relatedKeys =>
      exact (closesCursors_reconcile session item field relatedKeys).map _

/-! ## Runs -/

/-- What each of a list of operations adds to the log. -/
def exchanges (state : SessionState) : List SessionOperation → List (List Event)
  | [] => []
  | operation :: rest =>
      let after := (session.perform operation state).2
      after.log.drop state.log.length :: exchanges after rest

theorem exchange_stateAfter (state : SessionState) (operations : List SessionOperation) :
    ∃ answers, List.Forall₂ CursorsClosed answers (session.exchanges state operations) ∧
      Exchange state (session.stateAfter state operations) answers.flatten
        (session.exchanges state operations).flatten := by
  induction operations generalizing state with
  | nil => exact ⟨[], .nil, .of_eq rfl rfl⟩
  | cons operation rest ih =>
      obtain ⟨answers, events, exchange, closed⟩ := closesCursors_perform session operation state
      obtain ⟨others, othersClosed, otherExchange⟩ := ih (session.perform operation state).2
      rw [exchanges, exchange.drop_log]
      exact ⟨answers :: others, .cons closed othersClosed, exchange.trans otherExchange⟩

/-- A run of operations closes its cursors. Each operation closes those that it opens, so that
over the run one is opened for each result that storage gives and one closed for each opened.
Nothing is done with a cursor unless it is open, and it is not closed unless it is open. -/
theorem cursorsClosed_stateAfter (state : SessionState) (operations : List SessionOperation) :
    ∃ answers, List.Forall₂ CursorsClosed answers (session.exchanges state operations) ∧
      state.script.results =
        answers.flatten ++ (session.stateAfter state operations).script.results ∧
      ∃ events, events = (session.exchanges state operations).flatten ∧
        (session.stateAfter state operations).log = state.log ++ events ∧
        events.count .opened = answers.flatten.countP Except.isOk ∧
        events.count .closed = events.count .opened ∧ OpenAsNeeded events := by
  obtain ⟨answers, closed, exchange⟩ := exchange_stateAfter session state operations
  have whole := CursorsClosed.flatten closed
  exact ⟨answers, closed, exchange.results, _, rfl, exchange.log, whole.count_opened,
    whole.count_closed, whole.openAsNeeded⟩

end Session

end Persistence
