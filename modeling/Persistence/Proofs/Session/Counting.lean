import Persistence.Proofs.Session.Materialization

/-!
# Counted rows

What a session answers when it counts the rows of a query, if storage gives selections the
meaning that they have in SQL. A page is cut from the result of a count as from any other, so
that a page which skips rows skips the one row that holds the number.
-/

set_option autoImplicit false

namespace Persistence

/-! ## Selections -/

/-- The rows of a result that are on the page, all of them if there is no page. -/
def Page.cut {α : Type} : Option Page → List α → List α
  | none, rows => rows
  | some page, rows => (rows.drop page.offset).take page.limit

/-- A result that reports the number of its rows. -/
def ResultSet.ofRows (columns : List String) (rows : List (List Value)) : ResultSet :=
  ⟨columns, rows, rows.length⟩

/-- The tables of a storage and how it reads conditions. -/
structure Database where
  columns : String → List String
  rows : String → List (List Value)
  /-- Whether a row of a table meets the conditions of a selection. They may hold fragments of
  SQL, which storage alone can read. -/
  meets : String → List Condition → List Value → Bool

namespace Database

def matching (database : Database) (table : String) (conditions : List Condition) :
    List (List Value) :=
  (database.rows table).filter (database.meets table conditions)

/-- What SQL says a selection gives: the rows that meet the conditions, or one row with their
number, and of these rows the page. -/
inductive Answers (database : Database) : Statement → ResultSet → Prop where
  | rows (table : String) (conditions : List Condition) (page : Option Page) :
      Answers database (.select .rows table conditions page)
        (.ofRows (database.columns table) (Page.cut page (database.matching table conditions)))
  | rowCount (table : String) (conditions : List Condition) (page : Option Page)
      (column : String) (cell : Value) (number : Int64) (isNumber : cell.toInt64? = some number)
      (counts : number.toInt = (database.matching table conditions).length) :
      Answers database (.select .rowCount table conditions page)
        (.ofRows [column] (Page.cut page [[cell]]))

end Database

/-! ## Pages -/

theorem Page.cut_singleton {α : Type} (query : Query) (value : α) :
    Page.cut query.page? [value] =
      if query.limit = 0 ∨ query.offset = 0 then [value] else [] := by
  unfold Query.page?
  by_cases unlimited : query.limit = 0
  · simp [unlimited, Page.cut]
  · cases start : query.offset with
    | zero =>
        cases bound : query.limit with
        | zero => exact absurd bound unlimited
        | succ limit => simp [Page.cut]
    | succ offset => simp [unlimited, Page.cut]

theorem Page.cut_ne_nil {α : Type} {query : Query} (rows : List α)
    (limited : 0 < query.limit) :
    Page.cut query.page? rows ≠ [] ↔ query.offset < rows.length := by
  rw [Query.page?, if_neg (Nat.ne_of_gt limited), Page.cut, Ne, List.take_eq_nil_iff,
    List.drop_eq_nil_iff]
  dsimp only
  omega

/-! ## Answers of a session -/

namespace Session

open SessionStep

variable {session : Session} {query : Query} {state after : SessionState}

theorem selection_eq_ok {catalog : Catalog} {projection : Projection} {statement : Statement}
    (compiled : catalog.selection projection query = .ok statement) :
    ∃ table conditions, statement = .select projection table conditions query.page? ∧
      ∀ other, catalog.selection other query =
        .ok (.select other table conditions query.page?) := by
  obtain ⟨mapping, mapped, continuation⟩ := bind_eq_ok.mp compiled
  obtain ⟨conditions, met, written⟩ := bind_eq_ok.mp continuation
  cases written
  refine ⟨mapping.table, conditions, rfl, fun other => ?_⟩
  exact bind_eq_ok.mpr ⟨mapping, mapped, bind_eq_ok.mpr ⟨conditions, met, rfl⟩⟩

/-- A count gives the number that the first row of its answer holds, and none if there is no
row. -/
theorem count_of_scripted {statement : Statement}
    (compiled : session.catalog.count query = .ok statement) {column : String}
    {rows : List (List Value)}
    (scripted : state.script.results.head? = some (.ok (.ofRows [column] rows))) {cell : Value}
    {number : Int64} (isNumber : cell.toInt64? = some number) (natural : 0 ≤ number.toInt)
    (single : rows = [[cell]] ∨ rows = []) :
    (session.count query state).1 = .ok (if rows = [] then 0 else number.toInt.toNat) := by
  unfold count
  rw [compiled, settle_ok_bind]
  obtain ⟨opened, worked⟩ := withCursor_of_scripted scripted _
  rw [worked]
  rcases single with rfl | rfl
  · have read : (ResultSet.ofRows [column] [[cell]]).firstRow.integer 0 = .ok number := by
      refine bind_eq_ok.mpr ⟨cell, rfl, ?_⟩
      rw [integerCell, isNumber]
    simp only [ResultSet.ofRows, List.isEmpty_cons] at read ⊢
    rw [read]
    simp only [settle_ok_bind, Int.not_lt.mpr natural, if_false]
    rfl
  · rfl

theorem count_of_answers {database : Database} {table : String} {conditions : List Condition}
    (compiled : session.catalog.count query =
      .ok (.select .rowCount table conditions query.page?)) {answer : ResultSet}
    (answers : database.Answers (.select .rowCount table conditions query.page?) answer)
    (scripted : state.script.results.head? = some (.ok answer)) :
    (session.count query state).1 =
      .ok (if query.limit = 0 ∨ query.offset = 0
        then (database.matching table conditions).length else 0) := by
  cases answers with
  | rowCount _ _ _ column cell number isNumber counts =>
      have natural := Int.natCast_nonneg (database.matching table conditions).length
      rw [Page.cut_singleton] at scripted
      rw [← counts] at natural
      rw [count_of_scripted compiled scripted isNumber natural (by split <;> simp), counts]
      split <;> simp

theorem length_list {database : Database} {table : String} {conditions : List Condition}
    {answer : ResultSet}
    (answers : database.Answers (.select .rows table conditions query.page?) answer)
    (scripted : state.script.results.head? = some (.ok answer)) {records : List Record}
    (listed : session.list query state = (.ok records, after)) :
    records.length = (Page.cut query.page? (database.matching table conditions)).length := by
  obtain ⟨mapping, sql, given, opened, -, -, queried, made⟩ := list_eq_ok listed
  obtain ⟨begun, asked⟩ := query_of_scripted scripted sql true
  rw [asked] at queried
  cases queried
  cases answers with
  | rows =>
      rcases made with ⟨none, rfl⟩ | ⟨-, made⟩
      · exact none.symm
      · exact made.length_eq.symm

/-- A count gives the number of the rows that match exactly if the query has no page, a page
that skips nothing, or no match. Else it gives zero, and so it does where the page has rows for
a list. -/
theorem count_eq_matching_iff {statement : Statement} {database : Database} {answer : ResultSet}
    (compiled : session.catalog.count query = .ok statement)
    (answers : database.Answers statement answer)
    (scripted : state.script.results.head? = some (.ok answer)) :
    ∃ table conditions, statement = .select .rowCount table conditions query.page? ∧
      ((session.count query state).1 = .ok (database.matching table conditions).length ↔
        query.limit = 0 ∨ query.offset = 0 ∨ database.matching table conditions = []) ∧
      ∃ selection, session.catalog.select query = .ok selection ∧
        ∀ {rows : ResultSet} {listing ended : SessionState} {records : List Record},
          database.Answers selection rows → listing.script.results.head? = some (.ok rows) →
          session.list query listing = (.ok records, ended) →
          ((session.count query state).1 = .ok 0 ∧ records ≠ [] ↔
            0 < query.limit ∧ 0 < query.offset ∧
              query.offset < (database.matching table conditions).length) := by
  obtain ⟨table, conditions, rfl, selected⟩ := selection_eq_ok compiled
  have counted := count_of_answers compiled answers scripted
  refine ⟨table, conditions, rfl, ?_, _, selected .rows, ?_⟩
  · rw [counted, Except.ok.injEq, ← List.length_eq_zero_iff]
    split <;> omega
  · intro rows listing ended records given listScripted listed
    have length := length_list given listScripted listed
    rw [counted, Except.ok.injEq, ← List.length_pos_iff, length, List.length_pos_iff]
    by_cases paged : query.limit = 0 ∨ query.offset = 0
    · rw [if_pos paged, List.length_eq_zero_iff]
      constructor
      · rintro ⟨none, some⟩
        exact absurd (by rw [none]; cases query.page? <;> simp [Page.cut]) some
      · omega
    · rw [if_neg paged, Page.cut_ne_nil _ (by omega)]
      omega

/-! ## Seven notes -/

def noteCatalog : Catalog where
  schema := ⟨[
    { name := "Note"
      table := some "note"
      fields := [{ name := "id", type := .scalar .int64, isPrimaryKey := true }] }]⟩

/-- A storage whose tables have seven rows, all of which meet all conditions. -/
def sevenNotes : Database where
  columns _ := ["id"]
  rows _ := [[.int64 1], [.int64 2], [.int64 3], [.int64 4], [.int64 5], [.int64 6], [.int64 7]]
  meets _ _ _ := true

def answering (answer : ResultSet) : SessionState :=
  .initial 1000 .evict { results := [.ok answer] }

theorem count_eq_matching_iff_firstNotes :
    ∃ statement answer,
      noteCatalog.count { entity := "Note", limit := 3 } = .ok statement ∧
      sevenNotes.Answers statement answer ∧
      (answering answer).script.results.head? = some (.ok answer) ∧
      ∃ table conditions,
        statement = .select .rowCount table conditions (some ⟨3, 0⟩) ∧
        ((Session.count { catalog := noteCatalog } { entity := "Note", limit := 3 }
            (answering answer)).1 = .ok (sevenNotes.matching table conditions).length ↔
          3 = 0 ∨ 0 = 0 ∨ sevenNotes.matching table conditions = []) ∧
        ∃ selection, noteCatalog.select { entity := "Note", limit := 3 } = .ok selection ∧
          ∀ {rows : ResultSet} {listing ended : SessionState} {records : List Record},
            sevenNotes.Answers selection rows → listing.script.results.head? = some (.ok rows) →
            Session.list { catalog := noteCatalog } { entity := "Note", limit := 3 } listing =
              (.ok records, ended) →
            ((Session.count { catalog := noteCatalog } { entity := "Note", limit := 3 }
                (answering answer)).1 = .ok 0 ∧ records ≠ [] ↔
              0 < 3 ∧ 0 < 0 ∧ 0 < (sevenNotes.matching table conditions).length) := by
  have answers : sevenNotes.Answers (.select .rowCount "note" [] (some ⟨3, 0⟩)) _ :=
    .rowCount "note" [] (some ⟨3, 0⟩) "count(*)" (.int64 7) 7 rfl rfl
  exact ⟨_, _, rfl, answers, rfl,
    @count_eq_matching_iff { catalog := noteCatalog } { entity := "Note", limit := 3 } _ _ _ _
      rfl answers rfl⟩

/-- Of seven notes a page behind the fifth lists two, and counts none. -/
theorem not_count_eq_matching :
    ∃ statement selection answer page,
      noteCatalog.count { entity := "Note", limit := 10, offset := 5 } = .ok statement ∧
      noteCatalog.select { entity := "Note", limit := 10, offset := 5 } = .ok selection ∧
      sevenNotes.Answers statement answer ∧ sevenNotes.Answers selection page ∧
      (sevenNotes.matching "note" []).length = 7 ∧
      (Session.list { catalog := noteCatalog } { entity := "Note", limit := 10, offset := 5 }
          (answering page)).1 =
        .ok [⟨"Note", [("id", .int64 6)]⟩, ⟨"Note", [("id", .int64 7)]⟩] ∧
      (Session.count { catalog := noteCatalog } { entity := "Note", limit := 10, offset := 5 }
          (answering answer)).1 = .ok 0 := by
  refine ⟨.select .rowCount "note" [] (some ⟨10, 5⟩), .select .rows "note" [] (some ⟨10, 5⟩),
    .ofRows ["count(*)"] [], .ofRows ["id"] [[.int64 6], [.int64 7]], ?_, ?_, ?_, ?_, ?_, ?_, ?_⟩
  · rfl
  · rfl
  · exact .rowCount "note" [] (some ⟨10, 5⟩) "count(*)" (.int64 7) 7 rfl rfl
  · exact .rows "note" [] (some ⟨10, 5⟩)
  · rfl
  · decide +kernel
  · decide +kernel

end Session

end Persistence
