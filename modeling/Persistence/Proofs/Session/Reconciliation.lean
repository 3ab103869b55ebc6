import Persistence.Proofs.Session.LinkRemoval
import Persistence.Proofs.Sql.LinkRows
import Persistence.Proofs.Sql.QueryReading

/-!
# Reconciled links

What storage holds of the links of an instance when they have been made those to given keys. A
null among the keys keeps every link in place and is linked itself, and a link without a known
counterpart is kept beside any keys; otherwise the links are exactly those to the keys.
-/

set_option autoImplicit false

namespace Persistence

/-! ## Cells of values -/

theorem Literal.cell?_eq_null {literal : Literal} :
    literal.cell? = some .null ↔ literal = .null := by
  cases literal with
  | real value => cases value <;> simp [cell?]
  | _ => simp [cell?]

theorem Literal.exists_cell {literal : Literal} (finite : literal.isFinite = true) :
    ∃ cell, literal.cell? = some cell := by
  cases literal with
  | real value =>
      cases value with
      | finite decimal => exact ⟨_, rfl⟩
      | infinite negative => cases finite
      | notANumber => cases finite
  | _ => exact ⟨_, rfl⟩

namespace Value

variable {value : Value} {type : StorageType} {cell : Cell}

def Suits (type : StorageType) (value : Value) : Prop :=
  value.isNull = true ∨ value.storageType = type

theorem literalAs_of_suits (suits : value.Suits type) : value.literalAs type = value.literal := by
  rcases suits with null | rfl
  · cases value with
    | null => rfl
    | _ => cases null
  · cases value <;> rfl

theorem literalAs_eq_null : value.literalAs type = .null ↔ value.isNull = true := by
  cases type <;> cases value <;> simp [literalAs, literal, isNull]

theorem cell_eq_null_iff (held : (value.literalAs type).cell? = some cell) :
    cell = .null ↔ value.isNull = true := by
  rw [← literalAs_eq_null, ← Literal.cell?_eq_null, held, Option.some.injEq]

theorem exists_cells {values : List Value} (finite : ∀ value ∈ values, value.isFinite = true)
    (type : StorageType) :
    ∃ cells, List.Forall₂ (fun value cell => (value.literalAs type).cell? = some cell)
      values cells := by
  induction values with
  | nil => exact ⟨[], .nil⟩
  | cons first rest ih =>
      obtain ⟨firstFinite, othersFinite⟩ := List.forall_mem_cons.mp finite
      obtain ⟨cell, held⟩ := Literal.exists_cell (first.isFinite_literalAs firstFinite type)
      obtain ⟨cells, othersHeld⟩ := ih othersFinite
      exact ⟨cell :: cells, .cons held othersHeld⟩

theorem null_not_mem_cells_iff {values : List Value} {cells : List Cell}
    (held : List.Forall₂ (fun value cell => (value.literalAs type).cell? = some cell)
      values cells) :
    .null ∉ cells ↔ ∀ value ∈ values, value.isNull = false := by
  induction held with
  | nil => simp
  | cons first _ ih =>
      rw [List.mem_cons, not_or, ih, List.forall_mem_cons, eq_comm, cell_eq_null_iff first,
        Bool.not_eq_true]

theorem mapM_literal_cell? {values : List Value} {cells : List Cell}
    (suit : ∀ value ∈ values, value.Suits type)
    (held : List.Forall₂ (fun value cell => (value.literalAs type).cell? = some cell)
      values cells) :
    (values.map literal).mapM Literal.cell? = some cells := by
  induction held with
  | nil => rfl
  | @cons value cell values cells first _ ih =>
      obtain ⟨suits, othersSuit⟩ := List.forall_mem_cons.mp suit
      rw [literalAs_of_suits suits] at first
      rw [List.map_cons, List.mapM_cons, first, ih othersSuit]
      rfl

end Value

/-! ## Statements on the links of an instance -/

namespace Catalog

/-- The instance is on the own side of the join table and has the owner's cell in it. -/
structure OwnsLinks (catalog : Catalog) (relationship : Relationship) (item : Instance)
    (table : String) (own other : Side) (otherType : StorageType) (owner : Literal)
    (ownerCell : Cell) : Prop where
  kind : relationship.kind = .manyToMany table
  sided : relationship.sides item.entity = .ok (own, other)
  written : catalog.sideLiteral own (item.value own.field) = .ok owner
  held : owner.cell? = some ownerCell
  otherTyped : catalog.storageType other.entity other.field = .ok otherType

variable {catalog : Catalog} {relationship : Relationship} {item : Instance} {table : String}
  {own other : Side} {otherType : StorageType} {owner : Literal} {ownerCell : Cell}

theorem OwnsLinks.deleteStaleLinks
    (owns : catalog.OwnsLinks relationship item table own other otherType owner ownerCell)
    (keys : List Value) :
    catalog.deleteStaleLinks relationship item keys =
      .ok (.delete table (.compare own.joinColumn .equal owner ::
        match keys with
        | [] => []
        | _ => [.isNotIn other.joinColumn (keys.map Value.literal)])) :=
  deleteStaleLinks_eq_ok.mpr ⟨table, own, other, owner,
    Relationship.joinTable?_eq_some.mpr owns.kind, owns.sided, owns.written, rfl⟩

theorem OwnsLinks.insertLink
    (owns : catalog.OwnsLinks relationship item table own other otherType owner ownerCell)
    (key : Value) :
    catalog.insertLink relationship item key =
      .ok (.insert catalog.dialect.insertOrIgnore table [own.joinColumn, other.joinColumn]
        [owner, key.literalAs otherType]) :=
  insertLink_eq_ok.mpr ⟨table, own, other, owner,
    Relationship.joinTable?_eq_some.mpr owns.kind, owns.sided, owns.written, _,
    sideLiteral_of_storageType owns.otherTyped key, rfl⟩

theorem exists_deleteStaleLinks {keys : List Value} {counterparts : List Cell}
    (owns : catalog.OwnsLinks relationship item table own other otherType owner ownerCell)
    (suit : ∀ key ∈ keys, key.Suits otherType)
    (held : List.Forall₂ (fun key cell => (key.literalAs otherType).cell? = some cell)
      keys counterparts) :
    ∃ statement, catalog.deleteStaleLinks relationship item keys = .ok statement ∧
      statement.change? catalog.dialect =
        some (table,
          TableRow.removeStale own.joinColumn other.joinColumn ownerCell counterparts) := by
  refine ⟨_, owns.deleteStaleLinks keys, ?_⟩
  have ownerTest : (Condition.compare own.joinColumn .equal owner).test? =
      some fun row => (row own.joinColumn).equal ownerCell := by
    rw [Condition.test?, owns.held]
    rfl
  cases keys with
  | nil =>
      cases held
      rw [TableRow.removeStale_nil, Statement.change?, List.mapM_cons, ownerTest]
      rfl
  | cons first rest =>
      have keptTest : (Condition.isNotIn other.joinColumn
            ((first :: rest).map Value.literal)).test? =
          some fun row => ((row other.joinColumn).isAmong counterparts).not := by
        rw [Condition.test?, Value.mapM_literal_cell? suit held]
        rfl
      rw [Statement.change?, List.mapM_cons, ownerTest, List.mapM_cons, keptTest]
      rfl

theorem exists_insertLink {key : Value} {counterpart : Cell}
    (owns : catalog.OwnsLinks relationship item table own other otherType owner ownerCell)
    (held : (key.literalAs otherType).cell? = some counterpart) :
    ∃ statement, catalog.insertLink relationship item key = .ok statement ∧
      statement.change? catalog.dialect =
        some (table, TableRow.addTo [own.joinColumn, other.joinColumn]
          (TableRow.link own.joinColumn other.joinColumn ownerCell counterpart)) := by
  refine ⟨_, owns.insertLink key, ?_⟩
  have cells : [owner, key.literalAs otherType].mapM Literal.cell? =
      some [ownerCell, counterpart] := by
    rw [List.mapM_cons, owns.held, List.mapM_cons, held]
    rfl
  rw [Statement.change?, cells]
  exact if_pos rfl

theorem exists_insertLinks {keys : List Value} {counterparts : List Cell}
    (owns : catalog.OwnsLinks relationship item table own other otherType owner ownerCell)
    (held : List.Forall₂ (fun key cell => (key.literalAs otherType).cell? = some cell)
      keys counterparts) :
    ∃ statements,
      List.Forall₂ (fun key statement => catalog.insertLink relationship item key = .ok statement)
        keys statements ∧
      List.Forall₂
        (fun statement change => statement.change? catalog.dialect = some (table, change))
        statements
        (counterparts.map fun counterpart =>
          TableRow.addTo [own.joinColumn, other.joinColumn]
            (TableRow.link own.joinColumn other.joinColumn ownerCell counterpart)) := by
  induction held with
  | nil => exact ⟨[], .nil, .nil⟩
  | cons first _ ih =>
      obtain ⟨statement, compiled, changed⟩ := exists_insertLink owns first
      obtain ⟨statements, othersCompiled, othersChanged⟩ := ih
      exact ⟨statement :: statements, .cons compiled othersCompiled,
        .cons changed othersChanged⟩

end Catalog

/-! ## Statements carried out -/

/-- Storage fails in none of the changes that it is still going to answer. -/
def SessionState.CarriesOut (state : SessionState) : Prop :=
  ∀ answer ∈ state.script.changes, ∃ count, answer = .ok count

namespace Session

open SessionStep

variable {session : Session} {relationship : Relationship} {item : Instance}
  {state : SessionState}

theorem exists_run (carriesOut : state.CarriesOut) (statement : Statement) :
    ∃ rows after, run statement state = (.ok rows, after) ∧ after.CarriesOut := by
  unfold run execute
  cases answers : state.script.changes with
  | nil =>
      refine ⟨1, _, rfl, ?_⟩
      intro answer member
      exact carriesOut answer member
  | cons answer rest =>
      obtain ⟨count, rfl⟩ := carriesOut answer (answers ▸ List.mem_cons_self)
      refine ⟨count, _, rfl, ?_⟩
      intro other member
      exact carriesOut other (answers ▸ List.mem_cons_of_mem _ member)

theorem exists_insertLinks_run {keys : List Value} {statements : List Statement}
    (compiled : List.Forall₂
      (fun key statement => session.catalog.insertLink relationship item key = .ok statement)
      keys statements) (carriesOut : state.CarriesOut) :
    ∃ rows after, session.insertLinks relationship item keys state = (.ok rows, after) ∧
      after.sent = state.sent ++ statements.map sentChange := by
  induction compiled generalizing state with
  | nil => exact ⟨0, state, rfl, by simp⟩
  | cons first _ ih =>
      obtain ⟨rows, middle, ran, middleCarriesOut⟩ := exists_run carriesOut _
      obtain ⟨more, after, inserted, sent⟩ := ih middleCarriesOut
      refine ⟨rows + more, after, ?_, ?_⟩
      · rw [insertLinks, first, settle_ok_bind, bind_of_ok ran, bind_of_ok inserted]
        rfl
      · rw [sent, sent_run ran, List.map_cons, List.append_assoc, List.singleton_append]

/-- The links of an instance are those to the given keys, and the rows of others are as they
were, behind the statements of a reconciliation: exactly if there are no keys, or if there is no
null among them nor among the counterparts that the instance had. -/
theorem reconcile_exact_iff {field : String} {ownType otherType : StorageType}
    {keys : List Value}
    (resolved : session.catalog.relationship item.entity field = .ok relationship)
    (linked : relationship.cardinality = .manyToMany)
    (ownTyped : session.catalog.storageType relationship.first.entity relationship.first.field =
      .ok ownType)
    (otherTyped : session.catalog.storageType relationship.second.entity
      relationship.second.field = .ok otherType)
    (owned : (item.value relationship.first.field).isNull = false)
    (ownFinite : (item.value relationship.first.field).isFinite = true)
    (suit : ∀ key ∈ keys, key.Suits otherType)
    (finite : ∀ key ∈ keys, key.isFinite = true) (carriesOut : state.CarriesOut) :
    ∃ (own other table : String) (owner : Cell) (counterparts : List Cell)
        (statements : List Statement) (rows : Nat) (ended : SessionState),
      own = relationship.first.joinColumn ∧ other = relationship.second.joinColumn ∧
      relationship.kind = .manyToMany table ∧
      ((item.value relationship.first.field).literalAs ownType).cell? = some owner ∧
      List.Forall₂ (fun key cell => (key.literalAs otherType).cell? = some cell)
        keys counterparts ∧
      session.reconcile item field keys state = (.ok rows, ended) ∧
      ended.sent = state.sent ++ statements.map sentChange ∧
      ∀ before, ∃ after,
        Statement.afterAll? session.catalog.dialect statements before = some after ∧
        (∀ name, name ≠ table → after name = before name) ∧
        TableRow.othersOf own owner (after table) = TableRow.othersOf own owner (before table) ∧
        TableRow.HasLinks own other owner counterparts (after table) ∧
        (TableRow.HasNoOtherLinks own other owner counterparts (after table) ↔
          keys = [] ∨
            ((∀ key ∈ keys, key.isNull = false) ∧
              ∀ row ∈ before table, (row own).equal owner = .yes → row other ≠ .null)) := by
  obtain ⟨table, kind⟩ := Relationship.cardinality_eq_manyToMany.mp linked
  have different := Catalog.joinColumn_ne resolved linked
  have sided : relationship.sides item.entity =
      .ok (relationship.first, relationship.second) := by
    rw [Relationship.sides, if_pos (Catalog.first_relationship resolved)]
  obtain ⟨owner, ownerHeld⟩ := Literal.exists_cell
    ((item.value relationship.first.field).isFinite_literalAs ownFinite ownType)
  have ownerKnown : owner ≠ .null := by
    intro null
    rw [Value.cell_eq_null_iff ownerHeld, owned] at null
    cases null
  obtain ⟨counterparts, held⟩ := Value.exists_cells finite otherType
  have owns : session.catalog.OwnsLinks relationship item table relationship.first
      relationship.second otherType _ owner :=
    ⟨kind, sided, bind_eq_ok.mpr ⟨ownType, ownTyped, rfl⟩, ownerHeld, otherTyped⟩
  obtain ⟨stale, staleCompiled, staleChanged⟩ := Catalog.exists_deleteStaleLinks owns suit held
  obtain ⟨links, linksCompiled, linksChanged⟩ := Catalog.exists_insertLinks owns held
  obtain ⟨removed, middle, ran, middleCarriesOut⟩ := exists_run carriesOut stale
  obtain ⟨added, ended, inserted, sent⟩ := exists_insertLinks_run linksCompiled middleCarriesOut
  refine ⟨_, _, table, owner, counterparts, stale :: links, removed + added, ended, rfl, rfl,
    kind, ownerHeld, held, ?_, ?_, fun before => ?_⟩
  · rw [reconcile, resolved, settle_ok_bind, staleCompiled, settle_ok_bind, bind_of_ok ran,
      bind_of_ok inserted]
    rfl
  · rw [sent, sent_run ran, List.map_cons, List.append_assoc, List.singleton_append]
  · obtain ⟨after, applied, changed, kept⟩ :=
      Statement.afterAll?_of_changes (.cons staleChanged linksChanged) before
    have reconciled : after table = TableRow.reconciled relationship.first.joinColumn
        relationship.second.joinColumn owner counterparts (before table) := by
      rw [changed, List.foldl_cons, List.foldl_map]
      rfl
    refine ⟨after, applied, kept, ?_, ?_, ?_⟩
    · rw [reconciled, TableRow.othersOf_reconciled ownerKnown]
    · rw [reconciled]
      exact TableRow.hasLinks_addLinks different ownerKnown
    · rw [reconciled, TableRow.hasNoOtherLinks_reconciled_iff different ownerKnown,
        Value.null_not_mem_cells_iff held]
      have empty : counterparts = [] ↔ keys = [] := by
        rw [← List.length_eq_zero_iff, ← held.length_eq, List.length_eq_zero_iff]
      rw [empty]

/-! ## Clubs left and joined -/

def memberships : Tables := fun table =>
  if table = "membership" then
    [.ofColumns ["person_id", "club_id"] [.number 7, .number 2],
      .ofColumns ["person_id", "club_id"] [.number 8, .number 2]]
  else []

def personsAndClubs (rows : List TableRow) : List (Cell × Cell) :=
  rows.map fun row => (row "person_id", row "club_id")

theorem reconcile_exact_iff_clubs :
    ∃ relationship, memberCatalog.relationship member.entity "clubs" = .ok relationship ∧
      relationship.cardinality = .manyToMany ∧
      memberCatalog.storageType relationship.first.entity relationship.first.field =
        .ok .integer ∧
      memberCatalog.storageType relationship.second.entity relationship.second.field =
        .ok .integer ∧
      (member.toInstance.value relationship.first.field).isNull = false ∧
      (member.toInstance.value relationship.first.field).isFinite = true ∧
      (∀ key ∈ [.int64 1, .int64 1, .null], Value.Suits .integer key) ∧
      (∀ key ∈ [.int64 1, .int64 1, .null], Value.isFinite key = true) ∧
      freshState.CarriesOut ∧
      ∃ (own other table : String) (owner : Cell) (counterparts : List Cell)
          (statements : List Statement) (rows : Nat) (ended : SessionState),
        own = relationship.first.joinColumn ∧ other = relationship.second.joinColumn ∧
        relationship.kind = .manyToMany table ∧
        ((member.toInstance.value relationship.first.field).literalAs .integer).cell? =
          some owner ∧
        List.Forall₂ (fun key cell => (Value.literalAs .integer key).cell? = some cell)
          [.int64 1, .int64 1, .null] counterparts ∧
        Session.reconcile { catalog := memberCatalog } member.toInstance "clubs"
          [.int64 1, .int64 1, .null] freshState = (.ok rows, ended) ∧
        ended.sent = freshState.sent ++ statements.map sentChange ∧
        ∀ before, ∃ after,
          Statement.afterAll? memberCatalog.dialect statements before = some after ∧
          (∀ name, name ≠ table → after name = before name) ∧
          TableRow.othersOf own owner (after table) =
            TableRow.othersOf own owner (before table) ∧
          TableRow.HasLinks own other owner counterparts (after table) ∧
          (TableRow.HasNoOtherLinks own other owner counterparts (after table) ↔
            [.int64 1, .int64 1, .null] = ([] : List Value) ∨
              ((∀ key ∈ [.int64 1, .int64 1, .null], Value.isNull key = false) ∧
                ∀ row ∈ before table, (row own).equal owner = .yes → row other ≠ .null)) := by
  have suit : ∀ key ∈ [.int64 1, .int64 1, .null], Value.Suits .integer key := by
    simp [Value.Suits, Value.storageType, Value.isNull]
  have finite : ∀ key ∈ [.int64 1, .int64 1, .null], Value.isFinite key = true := by decide
  have carriesOut : freshState.CarriesOut := nofun
  exact ⟨_, rfl, rfl, rfl, rfl, rfl, rfl, suit, finite, carriesOut,
    @reconcile_exact_iff { catalog := memberCatalog } _ member.toInstance freshState "clubs"
      .integer .integer _ rfl rfl rfl rfl rfl rfl suit finite carriesOut⟩

theorem not_hasNoOtherLinks_of_mem {rows : List TableRow}
    (held : (.number 7, .number 2) ∈ personsAndClubs rows) :
    ¬ TableRow.HasNoOtherLinks "person_id" "club_id" (.number 7) [.number 1, .null] rows := by
  intro exact
  obtain ⟨row, isRow, cells⟩ := List.mem_map.mp held
  obtain ⟨person, club⟩ := Prod.mk.inj cells
  obtain ⟨counterpart, isCounterpart, same⟩ := exact row isRow (by rw [person]; decide)
  rw [club] at same
  simp only [List.mem_cons, List.not_mem_nil, or_false] at isCounterpart
  rcases isCounterpart with rfl | rfl <;> revert same <;> decide

/-- With a null among the clubs to be in, a person stays in a club that is not among them, and
is linked with a club that is not known. -/
theorem not_reconciled_null :
    ∃ (stale first second : Statement) (after : Tables),
      (Session.reconcile { catalog := memberCatalog } member.toInstance "clubs"
          [.int64 1, .null] freshState).1 = .ok 3 ∧
      (Session.reconcile { catalog := memberCatalog } member.toInstance "clubs"
          [.int64 1, .null] freshState).2.sent = [stale, first, second].map sentChange ∧
      stale.render = "DELETE FROM membership WHERE person_id = 7 AND club_id NOT IN (1, NULL)" ∧
      first.render = "INSERT OR IGNORE INTO membership (person_id, club_id) VALUES (7, 1)" ∧
      second.render =
        "INSERT OR IGNORE INTO membership (person_id, club_id) VALUES (7, NULL)" ∧
      Statement.afterAll? memberCatalog.dialect [stale, first, second] memberships =
        some after ∧
      personsAndClubs (memberships "membership") =
        [(.number 7, .number 2), (.number 8, .number 2)] ∧
      personsAndClubs (after "membership") =
        [(.number 7, .number 2), (.number 8, .number 2), (.number 7, .number 1),
          (.number 7, .null)] ∧
      ¬ TableRow.HasNoOtherLinks "person_id" "club_id" (.number 7) [.number 1, .null]
        (after "membership") := by
  refine ⟨.delete "membership" [.compare "person_id" .equal (.integer 7),
      .isNotIn "club_id" [.integer 1, .null]],
    .insert "INSERT OR IGNORE INTO" "membership" ["person_id", "club_id"] [.integer 7, .integer 1],
    .insert "INSERT OR IGNORE INTO" "membership" ["person_id", "club_id"] [.integer 7, .null],
    _, rfl, rfl, rfl, rfl, rfl, rfl, rfl, ?_, not_hasNoOtherLinks_of_mem ?_⟩
  · decide
  · decide

end Session

end Persistence
