import Persistence.Proofs.Catalog.JoinTable
import Persistence.Proofs.Session.Sent

/-!
# Linked instances

Which links a session reads for the many-to-many field of an instance. The side of the
instance is chosen twice, once for its key and once, from the name of the other entity, for
the statement; the choices agree unless an entity is related to itself.
-/

set_option autoImplicit false

namespace Persistence

/-- The statement reads the rows of the other side that the join table links with the row of
the own side whose column is the key. -/
def Statement.ReadsLinks (statement : Statement) (own other : Side) (joinTable : String)
    (key : Literal) : Prop :=
  ∃ selectedFirst, statement =
    .selectLinked selectedFirst (Catalog.linkedTable other) (Catalog.linkedTable own)
      joinTable key

namespace Catalog

variable {relationship : Relationship} {table : String}

theorem selectLinked_of_ne (kind : relationship.kind = .manyToMany table)
    (different : relationship.first.entity ≠ relationship.second.entity) (key : Value) :
    selectLinked relationship key relationship.second.entity =
      .ok (.selectLinked false (linkedTable relationship.second)
        (linkedTable relationship.first) table key.literal) :=
  selectLinked_eq_ok.mpr
    ⟨table, Relationship.joinTable?_eq_some.mpr kind, .inr ⟨different, rfl, rfl⟩⟩

theorem selectLinked_of_eq (kind : relationship.kind = .manyToMany table)
    (same : relationship.first.entity = relationship.second.entity) (key : Value) :
    selectLinked relationship key relationship.second.entity =
      .ok (.selectLinked true (linkedTable relationship.first)
        (linkedTable relationship.second) table key.literal) :=
  selectLinked_eq_ok.mpr
    ⟨table, Relationship.joinTable?_eq_some.mpr kind, .inl ⟨same, rfl⟩⟩

/-- What is read of a relationship that an instance declares are its links, unless the
relationship is one of an entity with itself. -/
theorem selectLinked_second {catalog : Catalog} {entity field : String}
    (resolved : catalog.relationship entity field = .ok relationship)
    (kind : relationship.kind = .manyToMany table) (key : Value) :
    ∃ statement, selectLinked relationship key relationship.second.entity = .ok statement ∧
      (statement.ReadsLinks relationship.first relationship.second table key.literal ↔
        relationship.first.entity ≠ relationship.second.entity) := by
  by_cases same : relationship.first.entity = relationship.second.entity
  · refine ⟨_, selectLinked_of_eq kind same key, ?_⟩
    constructor
    · rintro ⟨selectedFirst, written⟩
      have joined : relationship.first.joinColumn = relationship.second.joinColumn := by
        injection written with _ selected
        exact congrArg LinkedTable.joinColumn selected
      have linked := Relationship.cardinality_eq_manyToMany.mpr ⟨table, kind⟩
      exact absurd joined (joinColumn_ne resolved linked)
    · exact fun different => absurd same different
  · refine ⟨_, selectLinked_of_ne kind same key, ?_⟩
    exact ⟨fun _ => same, fun _ => ⟨false, rfl⟩⟩

theorem of_insertLink_eq_ok {catalog : Catalog} {item : Instance} {own other : Side}
    (kind : relationship.kind = .manyToMany table)
    (sided : relationship.sides item.entity = .ok (own, other)) {key : Value}
    {statement : Statement}
    (inserted : catalog.insertLink relationship item key = .ok statement) :
    ∃ values, statement = .insert catalog.dialect.insertOrIgnore table
      [own.joinColumn, other.joinColumn] values := by
  obtain ⟨joinTable, first, second, owner, tabled, ordered, -, related, -, rfl⟩ :=
    insertLink_eq_ok.mp inserted
  rw [Relationship.joinTable?_eq_some, kind] at tabled
  cases tabled
  rw [sided] at ordered
  cases ordered
  exact ⟨_, rfl⟩

end Catalog

namespace Session

open SessionStep

/-- For a many-to-many field of an instance a session sends one query. It reads the links of
the instance, in the positions in which they are inserted, exactly if the relationship is one
between two entities. -/
theorem sent_related {session : Session} {item : Instance} {field : String}
    {relationship : Relationship}
    (resolved : session.catalog.relationship item.entity field = .ok relationship)
    (linked : relationship.cardinality = .manyToMany) (state : SessionState) :
    ∃ (own other : Side) (joinTable : String) (statement : Statement),
      relationship.sides item.entity = .ok (own, other) ∧
      relationship.kind = .manyToMany joinTable ∧
      (session.related item field state).2.sent =
        state.sent ++ [.query statement.render true] ∧
      (∀ key insertion, session.catalog.insertLink relationship item key = .ok insertion →
        ∃ values, insertion = .insert session.catalog.dialect.insertOrIgnore joinTable
          [own.joinColumn, other.joinColumn] values) ∧
      (statement.ReadsLinks own other joinTable (item.value own.field).literal ↔
        relationship.first.entity ≠ relationship.second.entity) := by
  obtain ⟨table, kind⟩ := Relationship.cardinality_eq_manyToMany.mp linked
  have sided : relationship.sides item.entity =
      .ok (relationship.first, relationship.second) := by
    rw [Relationship.sides, if_pos (Catalog.first_relationship resolved)]
  obtain ⟨target, targeted⟩ := Catalog.mapping_second resolved
  obtain ⟨statement, selected, reads⟩ :=
    Catalog.selectLinked_second resolved kind (item.value relationship.first.field)
  have required : relationship.requireCardinality .manyToMany = .ok () := by
    rw [Relationship.requireCardinality, if_pos linked]
  refine ⟨relationship.first, relationship.second, table, statement, sided, kind, ?_, ?_, reads⟩
  · simp only [related, resolved, required, sided, selected, targeted, settle_ok_bind]
    rw [sent_bind_quiet, sent_withCursor]
    · exact fun result => .createAll _ _ _ _
    · exact fun records => (IsQuiet.cacheAll _ _).bind fun _ => .pure _
  · exact fun key insertion => Catalog.of_insertLink_eq_ok kind sided

/-! ## Friends and clubs -/

/-- Persons who are friends of one another, by number on one side and by code on the other,
and members of clubs. -/
def memberCatalog : Catalog where
  schema := ⟨[
    { name := "Person"
      fields := [
        { name := "id", type := .scalar .int64, isPrimaryKey := true },
        { name := "code", type := .scalar .int64 },
        { name := "friends"
          type := .association ⟨"friends", "Person", .manyToMany "friendship" "id" "code"⟩ },
        { name := "clubs"
          type := .association ⟨"clubs", "Club", .manyToMany "membership" "id" "id"⟩ }] },
    { name := "Club"
      fields := [{ name := "id", type := .scalar .int64, isPrimaryKey := true }] }]⟩

def member : Record := ⟨"Person", [("id", .int64 7), ("code", .int64 9)]⟩

/-- The state of a new session whose storage answers one query, with no rows. -/
def freshState : SessionState := .initial 1000 .evict { results := [.ok ⟨[], [], 0⟩] }

theorem sent_related_clubs :
    ∃ relationship, memberCatalog.relationship member.entity "clubs" = .ok relationship ∧
      relationship.cardinality = .manyToMany ∧
      ∃ (own other : Side) (joinTable : String) (statement : Statement),
        relationship.sides member.entity = .ok (own, other) ∧
        relationship.kind = .manyToMany joinTable ∧
        (Session.related { catalog := memberCatalog } member.toInstance "clubs"
            freshState).2.sent =
          freshState.sent ++ [.query statement.render true] ∧
        (∀ key insertion,
          memberCatalog.insertLink relationship member.toInstance key = .ok insertion →
          ∃ values, insertion = .insert memberCatalog.dialect.insertOrIgnore joinTable
            [own.joinColumn, other.joinColumn] values) ∧
        (statement.ReadsLinks own other joinTable (member.toInstance.value own.field).literal ↔
          relationship.first.entity ≠ relationship.second.entity) :=
  ⟨_, rfl, rfl, @sent_related { catalog := memberCatalog } member.toInstance "clubs" _ rfl rfl
    freshState⟩

/-- The friends of a person are read from the wrong side: the number of the person is looked
for among the codes. -/
theorem not_readsLinks_friends :
    ∃ relationship own other,
      memberCatalog.relationship member.entity "friends" = .ok relationship ∧
      relationship.kind = .manyToMany "friendship" ∧
      relationship.sides member.entity = .ok (own, other) ∧
      (Session.related { catalog := memberCatalog } member.toInstance "friends"
          freshState).2.sent =
        [.query ("SELECT x.* FROM person x, person y, friendship z " ++
          "WHERE z.person_id = x.id AND z.person_code = y.code AND y.code = 7") true] ∧
      ¬ ∃ statement : Statement,
        (Session.related { catalog := memberCatalog } member.toInstance "friends"
            freshState).2.sent = [.query statement.render true] ∧
          statement.ReadsLinks own other "friendship"
            (member.toInstance.value own.field).literal := by
  refine ⟨_, _, _, rfl, rfl, rfl, rfl, ?_⟩
  rintro ⟨statement, sent, selectedFirst, rfl⟩
  revert sent
  cases selectedFirst <;> decide

end Session

end Persistence
