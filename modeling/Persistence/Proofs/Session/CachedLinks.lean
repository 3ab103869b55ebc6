import Persistence.Proofs.Session.Freshness
import Persistence.Proofs.Session.LinkRemoval

/-!
# Cached instances of linked rows

What is served of a row whose foreign key a session sets. The link is stored by a statement of
its own and the cache is left alone, so that an instance that is cached shows the link it had.
-/

set_option autoImplicit false

namespace Persistence

/-! ## Links -/

/-- A link kept in a foreign key: the field of the row with the key holds the value. -/
structure StoredLink where
  entity : String
  key : Value
  field : String
  value : Value

namespace Catalog

variable {catalog : Catalog}

/-- The links that an operation makes. -/
inductive Makes (catalog : Catalog) : SessionOperation → StoredLink → Prop
  | linkOne {owner related : Instance} {field : String} {ownerKey relatedKey : Value}
      (owned : catalog.keyValue owner = .ok ownerKey)
      (targeted : catalog.keyValue related = .ok relatedKey) :
      Makes catalog (.linkOne owner field related) ⟨owner.entity, ownerKey, field, relatedKey⟩
  | linkMany {owner : Instance} {field : String} {relatedKeys : List Value}
      {relationship : Relationship} {ownerKey key : Value}
      (resolved : catalog.relationship owner.entity field = .ok relationship)
      (owned : catalog.keyValue owner = .ok ownerKey) (member : key ∈ relatedKeys) :
      Makes catalog (.linkMany owner field relatedKeys)
        ⟨relationship.second.entity, key, relationship.second.field, ownerKey⟩

end Catalog

/-- The condition is met by the rows whose column has the value. -/
inductive Condition.MetBy (column : String) (value : Literal) : Condition → Prop
  | compare : MetBy column value (.compare column .equal value)
  | isIn {values : List Literal} (member : value ∈ values) :
      MetBy column value (.isIn column values)

namespace Catalog

variable {catalog : Catalog}

/-- The statement stores the link in the column of its field, for the row with its key. -/
def Stores (catalog : Catalog) (link : StoredLink) (statement : Statement) : Prop :=
  ∃ mapping field keyType valueType condition,
    catalog.mapping link.entity = .ok mapping ∧ mapping.field? link.field = some field ∧
      catalog.storageType link.entity mapping.key.name = .ok keyType ∧
      statement =
        .update mapping.table [(field.columnName, link.value.literalAs valueType)] condition ∧
      condition.MetBy mapping.keyColumn (link.key.literalAs keyType)

/-! ## Statements that store links -/

theorem of_keyLiteral_eq_ok {item : Instance} {key : Value} {literal : Literal}
    (keyed : catalog.keyValue item = .ok key) (written : catalog.keyLiteral item = .ok literal) :
    ∃ mapping type, catalog.mapping item.entity = .ok mapping ∧
      catalog.storageType item.entity mapping.key.name = .ok type ∧
      literal = key.literalAs type := by
  obtain ⟨mapping, mapped, continuation⟩ := bind_eq_ok.mp written
  obtain ⟨_, sameMapped, valued⟩ := bind_eq_ok.mp keyed
  rw [mapped] at sameMapped
  cases sameMapped
  cases valued
  obtain ⟨type, typed, spelt⟩ := bind_eq_ok.mp continuation
  rw [mapping_entity mapped] at typed
  cases spelt
  exact ⟨mapping, type, mapped, typed, rfl⟩

theorem column_of_oneToOne {entity name : String} {relationship : Relationship}
    {mapping : Mapping} (mapped : catalog.mapping entity = .ok mapping)
    (resolved : catalog.relationship entity name = .ok relationship)
    (single : relationship.cardinality = .oneToOne) :
    ∃ field, mapping.field? name = some field ∧ relationship.first.column = field.columnName := by
  obtain ⟨owner, field, association, target, owned, isField, -, -, declared⟩ :=
    of_relationship_eq_ok resolved
  rw [mapped] at owned
  cases owned
  rcases Relationship.ofAssociation_cases declared with
    ⟨column, -, rfl⟩ | ⟨column, foreignKey, -, -, rfl⟩ | ⟨_, _, _, _, _, -, -, -, -, rfl⟩
  · exact ⟨field, isField, rfl⟩
  · cases single
  · cases single

theorem column_of_oneToMany {entity name column : String} {relationship : Relationship}
    {mapping : Mapping} (mapped : catalog.mapping relationship.second.entity = .ok mapping)
    (resolved : catalog.relationship entity name = .ok relationship)
    (kind : relationship.kind = .oneToMany column) :
    ∃ field, mapping.field? relationship.second.field = some field ∧
      field.columnName = column := by
  obtain ⟨owner, field, association, target, -, -, -, targeted, declared⟩ :=
    of_relationship_eq_ok resolved
  rcases Relationship.ofAssociation_cases declared with
    ⟨_, -, rfl⟩ | ⟨_, foreignKey, -, named, rfl⟩ | ⟨_, _, _, _, _, -, -, -, -, rfl⟩
  · cases kind
  · cases kind
    change catalog.mapping target.entity = .ok mapping at mapped
    rw [mapping_entity targeted, targeted] at mapped
    cases mapped
    -- Several fields may occupy the column. The last of them is the one that is linked.
    obtain ⟨member, occupies⟩ := List.mem_filter.mp (List.mem_of_getLast? named)
    exact ⟨foreignKey, field?_of_mem targeted (List.mem_of_mem_filter member),
      by simpa using occupies⟩
  · cases kind

theorem stores_updateOneToOne {owner related : Instance} {name : String}
    {relationship : Relationship} {ownerKey relatedKey : Value} {statement : Statement}
    (resolved : catalog.relationship owner.entity name = .ok relationship)
    (owned : catalog.keyValue owner = .ok ownerKey)
    (targeted : catalog.keyValue related = .ok relatedKey)
    (updated : catalog.updateOneToOne relationship owner related = .ok statement) :
    catalog.Stores ⟨owner.entity, ownerKey, name, relatedKey⟩ statement := by
  obtain ⟨_, single, continuation⟩ := bind_eq_ok.mp updated
  obtain ⟨_, -, continuation⟩ := bind_eq_ok.mp continuation
  obtain ⟨_, -, continuation⟩ := bind_eq_ok.mp continuation
  obtain ⟨mapping, mapped, continuation⟩ := bind_eq_ok.mp continuation
  obtain ⟨relatedLiteral, relatedWritten, continuation⟩ := bind_eq_ok.mp continuation
  obtain ⟨ownerLiteral, ownerWritten, written⟩ := bind_eq_ok.mp continuation
  cases written
  obtain ⟨_, valueType, -, -, rfl⟩ := of_keyLiteral_eq_ok targeted relatedWritten
  obtain ⟨_, keyType, sameMapped, keyTyped, rfl⟩ := of_keyLiteral_eq_ok owned ownerWritten
  rw [mapped] at sameMapped
  cases sameMapped
  obtain ⟨field, isField, column⟩ := column_of_oneToOne mapped resolved
    (Relationship.requireCardinality_eq_ok.mp single)
  refine ⟨mapping, field, keyType, valueType, _, mapped, isField, keyTyped, ?_, .compare⟩
  rw [column]

theorem stores_updateForeignKeys {owner : Instance} {name : String} {relatedKeys : List Value}
    {relationship : Relationship} {ownerKey key : Value} {statement : Option Statement}
    (resolved : catalog.relationship owner.entity name = .ok relationship)
    (owned : catalog.keyValue owner = .ok ownerKey) (member : key ∈ relatedKeys)
    (updated : catalog.updateForeignKeys relationship owner relatedKeys = .ok statement) :
    ∃ stored, statement = some stored ∧
      catalog.Stores ⟨relationship.second.entity, key, relationship.second.field, ownerKey⟩
        stored := by
  obtain ⟨column, collected, continuation⟩ := bind_eq_ok.mp updated
  obtain ⟨_, -, continuation⟩ := bind_eq_ok.mp continuation
  have present : relatedKeys.isEmpty = false :=
    List.isEmpty_eq_false_iff.mpr (List.ne_nil_of_mem member)
  rw [present, if_neg Bool.false_ne_true] at continuation
  obtain ⟨mapping, mapped, continuation⟩ := bind_eq_ok.mp continuation
  obtain ⟨keyType, keyTyped, continuation⟩ := bind_eq_ok.mp continuation
  obtain ⟨ownerLiteral, ownerWritten, written⟩ := bind_eq_ok.mp continuation
  cases written
  obtain ⟨_, valueType, -, -, rfl⟩ := of_keyLiteral_eq_ok owned ownerWritten
  obtain ⟨field, isField, occupies⟩ := column_of_oneToMany mapped resolved
    (Relationship.collectionColumn_eq_ok.mp collected)
  rw [mapping_entity mapped] at keyTyped
  refine ⟨_, rfl, mapping, field, keyType, valueType, _, mapped, isField, keyTyped, ?_,
    .isIn (List.mem_map_of_mem member)⟩
  rw [occupies]

end Catalog

namespace Session

open SessionStep

variable {session : Session} {state after : SessionState} {operation : SessionOperation}
  {link : StoredLink} {number : Nat}

/-! ## What is served of a linked row -/

/-- Every instance served from the cache for the row has the link. -/
def ShowsLink (session : Session) (state : SessionState) (link : StoredLink) : Prop :=
  ∀ record, session.ServesFromCache state link.entity link.key record →
    (record.toInstance.value link.field).identifiesSame link.value = true

theorem showsLink_congr (same : after.cache = state.cache) :
    session.ShowsLink after link ↔ session.ShowsLink state link := by
  simp only [ShowsLink, servesFromCache_iff, same]

/-- An operation that makes links sends one statement, which stores each of them. -/
theorem stores_of_makes (makes : session.catalog.Makes operation link)
    (succeeded : session.perform operation state = (.ok (.number number), after)) :
    ∃ statement, after.sent = state.sent ++ [sentChange statement] ∧
      session.catalog.Stores link statement := by
  cases makes with
  | linkOne owned targeted =>
      obtain ⟨_, linked, answered⟩ := map_eq_ok.mp succeeded
      cases answered
      obtain ⟨relationship, _, settled, continuation⟩ := SessionStep.bind_eq_ok.mp linked
      obtain ⟨resolved, rfl⟩ := settle_eq_ok.mp settled
      obtain ⟨statement, _, settled, ran⟩ := SessionStep.bind_eq_ok.mp continuation
      obtain ⟨updated, rfl⟩ := settle_eq_ok.mp settled
      exact ⟨statement, sent_run ran,
        Catalog.stores_updateOneToOne resolved owned targeted updated⟩
  | linkMany resolved owned member =>
      obtain ⟨_, linked, answered⟩ := map_eq_ok.mp succeeded
      cases answered
      obtain ⟨_, _, settled, continuation⟩ := SessionStep.bind_eq_ok.mp linked
      obtain ⟨sameResolved, rfl⟩ := settle_eq_ok.mp settled
      rw [resolved] at sameResolved
      cases sameResolved
      obtain ⟨_, _, settled, ran⟩ := SessionStep.bind_eq_ok.mp continuation
      obtain ⟨updated, rfl⟩ := settle_eq_ok.mp settled
      obtain ⟨statement, rfl, stores⟩ :=
        Catalog.stores_updateForeignKeys resolved owned member updated
      exact ⟨statement, sent_run ran, stores⟩

theorem keepsCache_of_makes (makes : session.catalog.Makes operation link) :
    KeepsCache (session.perform operation) := by
  intro state
  cases makes with
  | linkOne owned targeted =>
      rw [perform, map_apply]
      exact keepsCache_linkOne _ _ _ state
  | linkMany resolved owned member =>
      rw [perform, map_apply]
      exact keepsCache_linkMany _ _ _ state

/-- A link is stored, but what is served of its row from the cache shows the link afterwards
exactly if it showed it before. -/
theorem showsLink_iff (makes : session.catalog.Makes operation link)
    (succeeded : session.perform operation state = (.ok (.number number), after)) :
    (∃ statement, after.sent = state.sent ++ [sentChange statement] ∧
        session.catalog.Stores link statement) ∧
      (session.ShowsLink after link ↔ session.ShowsLink state link) := by
  refine ⟨stores_of_makes makes succeeded, showsLink_congr ?_⟩
  rw [← keepsCache_of_makes makes state, succeeded]

/-! ## A tenant who moves -/

/-- Persons with the houses that they live in, one person's house in one column. -/
def homeSession : Session where
  catalog := { schema := ⟨[
    { name := "Person"
      fields := [
        { name := "id", type := .scalar .int64, isPrimaryKey := true },
        { name := "home", type := .association ⟨"home", "House", .oneToOne "home_id"⟩ }] },
    { name := "House"
      fields := [
        { name := "id", type := .scalar .int64, isPrimaryKey := true },
        { name := "tenants"
          type := .association ⟨"tenants", "Person", .oneToMany "home_id"⟩ }] }]⟩ }

def tenant : Record := ⟨"Person", [("id", .int64 1), ("home", .int64 5)]⟩

def newHouse : Record := ⟨"House", [("id", .int64 7)]⟩

def newHome : StoredLink := ⟨"Person", .int64 1, "home", .int64 7⟩

/-- The state once the tenant has been saved. -/
def tenantState : SessionState :=
  homeSession.stateAfter (.initial 1000 .evict {}) [.save tenant]

def move : SessionOperation := .linkOne tenant.toInstance "home" newHouse.toInstance

def receive : SessionOperation := .linkMany newHouse.toInstance "tenants" [.int64 1]

theorem makes_move : homeSession.catalog.Makes move newHome := .linkOne rfl rfl

theorem makes_receive : homeSession.catalog.Makes receive newHome :=
  @Catalog.Makes.linkMany homeSession.catalog newHouse.toInstance "tenants" [.int64 1]
    ⟨"tenants", .oneToMany "home_id", ⟨"House", "house", "tenants", "id"⟩,
      ⟨"Person", "person", "home", "home_id"⟩⟩ (.int64 7) (.int64 1) rfl rfl List.mem_cons_self

theorem showsLink_iff_move :
    homeSession.catalog.Makes move newHome ∧
      ∃ after, homeSession.perform move tenantState = (.ok (.number 1), after) ∧
        (∃ statement, after.sent = tenantState.sent ++ [sentChange statement] ∧
          homeSession.catalog.Stores newHome statement) ∧
        (homeSession.ShowsLink after newHome ↔ homeSession.ShowsLink tenantState newHome) :=
  ⟨makes_move, _, rfl, showsLink_iff makes_move rfl⟩

theorem not_showsLink_of_tenant
    (served : homeSession.ServesFromCache state "Person" (.int64 1) tenant) :
    ¬ homeSession.ShowsLink state newHome :=
  fun shows => absurd (shows tenant served) (by decide)

/-- Whichever side the link is made from, the tenant is still served with the old home. -/
theorem not_showsLink_newHome :
    homeSession.catalog.Makes move newHome ∧ homeSession.catalog.Makes receive newHome ∧
      (homeSession.perform move tenantState).1 = .ok (.number 1) ∧
      (homeSession.perform receive tenantState).1 = .ok (.number 1) ∧
      ¬ homeSession.ShowsLink (homeSession.perform move tenantState).2 newHome ∧
      ¬ homeSession.ShowsLink (homeSession.perform receive tenantState).2 newHome :=
  ⟨makes_move, makes_receive, rfl, rfl, not_showsLink_of_tenant (.inl rfl),
    not_showsLink_of_tenant (.inl rfl)⟩

end Session

end Persistence
