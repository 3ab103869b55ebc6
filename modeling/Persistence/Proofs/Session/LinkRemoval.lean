import Persistence.Proofs.Session.LinkReading
import Persistence.Session.Writing

/-!
# Removed links

Which links go with the row of an instance. One statement is sent for each join table, by the
first relationship declared over it and on one side of that relationship; links in other
columns of the table stay.
-/

set_option autoImplicit false

namespace Persistence

open Schema

/-! ## Join tables -/

/-- The sides of a relationship that the entity is on: both if it is related to itself. -/
def Relationship.sidesOf (relationship : Relationship) (entity : String) : List Side :=
  [relationship.first, relationship.second].filter fun side => side.entity == entity

theorem Relationship.includes_of_sides {relationship : Relationship} {entity : String}
    {own other : Side} (sided : relationship.sides entity = .ok (own, other)) :
    relationship.includes entity = true := by
  unfold sides at sided
  unfold includes
  by_cases first : relationship.first.entity = entity
  · simp [first]
  · by_cases second : relationship.second.entity = entity
    · simp [second]
    · simp [first, second] at sided

namespace Catalog

/-- The many-to-many relationships that the stored entities declare, in order. -/
def declaredManyToMany (catalog : Catalog) : Except Error (List Relationship) := do
  let names := (catalog.schema.entities.filter Entity.isPersistent).map Entity.name
  let declared ← names.mapM catalog.declaredRelationships
  .ok (declared.flatten.filter fun relationship => relationship.joinTable?.isSome)

theorem manyToManyRelationships_eq_ok {catalog : Catalog} {entity : String}
    {relationships : List Relationship}
    (found : catalog.manyToManyRelationships entity = .ok relationships) :
    ∃ declared, catalog.declaredManyToMany = .ok declared ∧
      relationships = (distinctByJoinTable [] declared).filter fun relationship =>
        relationship.includes entity := by
  obtain ⟨distinct, all, filtered⟩ := bind_eq_ok.mp found
  obtain ⟨declared, each, distinctly⟩ := bind_eq_ok.mp all
  cases filtered
  cases distinctly
  refine ⟨declared.flatten.filter fun relationship => relationship.joinTable?.isSome, ?_, ?_⟩
  · exact bind_eq_ok.mpr ⟨declared, each, rfl⟩
  · rw [distinctByJoinTable_filter]

variable {catalog : Catalog} {item : Instance}

theorem of_mem_declaredManyToMany {declared : List Relationship}
    (declares : catalog.declaredManyToMany = .ok declared) {relationship : Relationship}
    (member : relationship ∈ declared) :
    relationship.joinTable?.isSome = true ∧
      ∃ entity field, catalog.relationship entity field = .ok relationship := by
  obtain ⟨groups, grouped, filtered⟩ := bind_eq_ok.mp declares
  cases filtered
  obtain ⟨flat, tabled⟩ := List.mem_filter.mp member
  obtain ⟨group, isGroup, inGroup⟩ := List.mem_flatten.mp flat
  obtain ⟨entity, -, ofEntity⟩ := (mem_results_iff (mapM_eq_ok.mp grouped)).mp isGroup
  exact ⟨tabled, entity, (mem_declaredRelationships_iff ofEntity).mp inGroup⟩

/-! ## Statements that remove links -/

/-- One of the statements removes the links that the instance has on the side. -/
def RemovesLinks (catalog : Catalog) (item : Instance) (statements : List Statement)
    (relationship : Relationship) (side : Side) : Prop :=
  ∃ table literal, relationship.joinTable? = some table ∧
    catalog.sideLiteral side (item.value side.field) = .ok literal ∧
    .delete table [.compare side.joinColumn .equal literal] ∈ statements

/-- The first relationship declared over the same join table has the entity of the instance on
a side with the same join column and the same value. -/
def FirstHasSide (catalog : Catalog) (item : Instance) (declared : List Relationship)
    (relationship : Relationship) (side : Side) : Prop :=
  ∃ first own other,
    declared.find? (fun other => other.joinTable? == relationship.joinTable?) = some first ∧
    first.sides item.entity = .ok (own, other) ∧ own.joinColumn = side.joinColumn ∧
    catalog.sideLiteral own (item.value own.field) =
      catalog.sideLiteral side (item.value side.field)

/-- With one statement for each join table, links are removed exactly on the sides that the
first relationship over the table has. -/
theorem removesLinks_iff {declared : List Relationship} {statements : List Statement}
    (removed : List.Forall₂
      (fun relationship statement => catalog.deleteLinks relationship item = .ok statement)
      ((distinctByJoinTable [] declared).filter fun relationship =>
        relationship.includes item.entity) statements)
    {relationship : Relationship} (linked : relationship.joinTable?.isSome = true)
    (side : Side) :
    catalog.RemovesLinks item statements relationship side ↔
      catalog.FirstHasSide item declared relationship side := by
  obtain ⟨table, tabled⟩ := Option.isSome_iff_exists.mp linked
  constructor
  · rintro ⟨_, literal, sameTable, valued, sent⟩
    obtain ⟨first, included, deleted⟩ := (mem_results_iff removed).mp sent
    obtain ⟨firstTable, own, other, owner, firstTabled, sided, owned, written⟩ :=
      deleteLinks_eq_ok.mp deleted
    have found := find?_of_mem_distinctByJoinTable (List.mem_filter.mp included).1 firstTabled
    simp only [Statement.delete.injEq, List.cons.injEq, Condition.compare.injEq] at written
    obtain ⟨rfl, ⟨joined, -, rfl⟩, -⟩ := written
    refine ⟨first, own, other, ?_, sided, joined.symm, owned.trans valued.symm⟩
    rw [sameTable, found]
  · rintro ⟨first, own, other, found, sided, joined, valued⟩
    have firstTabled : first.joinTable? = some table := by
      rw [← tabled]
      simpa using List.find?_some found
    rw [tabled] at found
    have included : first ∈ (distinctByJoinTable [] declared).filter fun relationship =>
        relationship.includes item.entity :=
      List.mem_filter.mpr ⟨mem_distinctByJoinTable.mpr ⟨table, List.not_mem_nil, found⟩,
        Relationship.includes_of_sides sided⟩
    obtain ⟨statement, sent, deleted⟩ := exists_result removed included
    obtain ⟨firstTable, firstOwn, firstOther, owner, sameTable, sameSides, owned, rfl⟩ :=
      deleteLinks_eq_ok.mp deleted
    rw [sided] at sameSides
    cases sameSides
    rw [firstTabled] at sameTable
    cases sameTable
    refine ⟨table, owner, tabled, ?_, ?_⟩
    · rw [← valued, owned]
    · rw [← joined]
      exact sent

/-- The first relationship over a join table takes an entity on one side only, so that it does
not have both sides of an entity related to itself. -/
theorem not_firstHasSide_both {declared : List Relationship}
    (declares : catalog.declaredManyToMany = .ok declared) {relationship : Relationship}
    (member : relationship ∈ declared) :
    ¬ (catalog.FirstHasSide item declared relationship relationship.first ∧
      catalog.FirstHasSide item declared relationship relationship.second) := by
  rintro ⟨⟨first, own, other, found, sided, joinedFirst, -⟩,
    ⟨sameFirst, sameOwn, sameOther, sameFound, sameSided, joinedSecond, -⟩⟩
  obtain ⟨tabled, entity, field, resolved⟩ := of_mem_declaredManyToMany declares member
  obtain ⟨table, joined⟩ := Option.isSome_iff_exists.mp tabled
  have linked := Relationship.cardinality_eq_manyToMany.mpr
    ⟨table, Relationship.joinTable?_eq_some.mp joined⟩
  rw [found] at sameFound
  cases sameFound
  rw [sided] at sameSided
  cases sameSided
  exact joinColumn_ne resolved linked (joinedFirst.symm.trans joinedSecond)

end Catalog

/-! ## Deletion of a row -/

namespace Session

open SessionStep

def sentChange (statement : Statement) : Event := .execute statement.render

theorem sent_run {statement : Statement} {state after : SessionState} {rows : Nat}
    (ran : run statement state = (.ok rows, after)) :
    after.sent = state.sent ++ [sentChange statement] := by
  have sent := sent_execute statement.render state
  rw [← sentChange] at sent
  rw [← sent]
  exact congrArg (fun ended => SessionState.sent ended.2) ran.symm

theorem sent_deleteAllLinks {session : Session} {item : Instance}
    {relationships : List Relationship} {state after : SessionState}
    (removed : session.deleteAllLinks item relationships state = (.ok (), after)) :
    ∃ links, List.Forall₂
        (fun relationship link => session.catalog.deleteLinks relationship item = .ok link)
        relationships links ∧
      after.sent = state.sent ++ links.map sentChange := by
  induction relationships generalizing state with
  | nil =>
      cases removed
      exact ⟨[], .nil, by simp⟩
  | cons relationship rest ih =>
      obtain ⟨link, _, settled, continuation⟩ := SessionStep.bind_eq_ok.mp removed
      obtain ⟨linked, rfl⟩ := settle_eq_ok.mp settled
      obtain ⟨rows, middle, ran, continuation⟩ := SessionStep.bind_eq_ok.mp continuation
      obtain ⟨links, othersLinked, sent⟩ := ih continuation
      refine ⟨link :: links, .cons linked othersLinked, ?_⟩
      rw [sent, sent_run ran, List.map_cons, List.append_assoc, List.singleton_append]

/-- A row is deleted behind links. Of the links that the instance has on the sides of declared
relationships, those are removed whose side the first relationship over the join table has. -/
theorem sent_delete {session : Session} {record : Record} {state after : SessionState}
    {rows : Nat} (deleted : session.delete record state = (.ok rows, after)) :
    ∃ (declared : List Relationship) (links : List Statement) (row : Statement),
      session.catalog.declaredManyToMany = .ok declared ∧
      session.catalog.delete record.toInstance = .ok row ∧
      after.sent = state.sent ++ (links.map sentChange ++ [sentChange row]) ∧
      ∀ relationship ∈ declared, ∀ side ∈ relationship.sidesOf record.entity,
        (session.catalog.RemovesLinks record.toInstance links relationship side ↔
          session.catalog.FirstHasSide record.toInstance declared relationship side) := by
  obtain ⟨relationships, _, settled, continuation⟩ := SessionStep.bind_eq_ok.mp deleted
  obtain ⟨found, rfl⟩ := settle_eq_ok.mp settled
  obtain ⟨declared, declares, rfl⟩ := Catalog.manyToManyRelationships_eq_ok found
  obtain ⟨_, unlinked, removed, continuation⟩ := SessionStep.bind_eq_ok.mp continuation
  obtain ⟨links, linked, linksSent⟩ := sent_deleteAllLinks removed
  obtain ⟨row, _, settled, continuation⟩ := SessionStep.bind_eq_ok.mp continuation
  obtain ⟨compiled, rfl⟩ := settle_eq_ok.mp settled
  obtain ⟨count, last, ran, continuation⟩ := SessionStep.bind_eq_ok.mp continuation
  refine ⟨declared, links, row, declares, compiled, ?_, ?_⟩
  · have quiet : IsQuiet (do
        let hash ← settle (session.catalog.identityHashOf record.toInstance)
        forget hash
        Pure.pure count : SessionStep Nat) :=
      (IsQuiet.settle _).bind fun hash => (IsQuiet.forget hash).bind fun _ => .pure count
    have sent := quiet last
    rw [continuation] at sent
    rw [← List.append_assoc, ← linksSent, ← sent_run ran]
    exact sent
  · intro relationship member side _
    have tabled := (Catalog.of_mem_declaredManyToMany declares member).1
    exact Catalog.removesLinks_iff linked tabled side

theorem sent_delete_member :
    ∃ rows after,
      Session.delete { catalog := memberCatalog } member freshState = (.ok rows, after) ∧
      ∃ (declared : List Relationship) (links : List Statement) (row : Statement),
        memberCatalog.declaredManyToMany = .ok declared ∧
        memberCatalog.delete member.toInstance = .ok row ∧
        after.sent = freshState.sent ++ (links.map sentChange ++ [sentChange row]) ∧
        ∀ relationship ∈ declared, ∀ side ∈ relationship.sidesOf member.entity,
          (memberCatalog.RemovesLinks member.toInstance links relationship side ↔
            memberCatalog.FirstHasSide member.toInstance declared relationship side) :=
  ⟨_, _, rfl, @sent_delete { catalog := memberCatalog } member freshState _ _ rfl⟩

/-- Where others have a person for a friend, this stays when the person is deleted. -/
theorem not_removed_friends :
    ∃ declared relationship side literal,
      memberCatalog.declaredManyToMany = .ok declared ∧ relationship ∈ declared ∧
      relationship.joinTable? = some "friendship" ∧
      side ∈ relationship.sidesOf member.entity ∧
      memberCatalog.sideLiteral side (member.toInstance.value side.field) = .ok literal ∧
      (Session.delete { catalog := memberCatalog } member freshState).1 = .ok 1 ∧
      (Session.delete { catalog := memberCatalog } member freshState).2.sent =
        [.execute "DELETE FROM friendship WHERE person_id = 7",
          .execute "DELETE FROM membership WHERE person_id = 7",
          .execute "DELETE FROM person WHERE id = 7"] ∧
      sentChange (.delete "friendship" [.compare side.joinColumn .equal literal]) ∉
        (Session.delete { catalog := memberCatalog } member freshState).2.sent := by
  refine ⟨_, ⟨"friends", .manyToMany "friendship", ⟨"Person", "person", "id", "id"⟩,
    ⟨"Person", "person", "code", "code"⟩⟩, ⟨"Person", "person", "code", "code"⟩, _, rfl, ?_,
    rfl, ?_, rfl, rfl, rfl, ?_⟩
  · decide
  · decide
  · decide

end Session

end Persistence
