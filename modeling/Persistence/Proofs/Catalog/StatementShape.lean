import Persistence.Proofs.Catalog.Resolution
import Persistence.Proofs.Sql.TokenShape
import Persistence.Sql.Linking

/-!
# Statements that differ in their data

Requests for statements on rows and links that differ only in the contents of texts and of bytes
have the same outcome: the same error, or statements whose tokens are of the same kinds and
differ only inside texts and blobs.
-/

set_option autoImplicit false

namespace Persistence

open Schema

/-! ## Data that differs in contents -/

/-- The values differ at most in the contents of a text or of bytes. -/
inductive Value.Alike : Value → Value → Prop where
  | same (value : Value) : Alike value value
  | string (left right : String) : Alike (.string left) (.string right)
  | bytes (left right : List UInt8) : Alike (.bytes left) (.bytes right)

theorem Literal.alike_self (literal : Literal) : literal.Alike literal := by
  cases literal with
  | null => exact .null
  | integer value => exact .integer value
  | real value => exact .real value
  | text contents => exact .text contents contents
  | blob contents => exact .blob contents contents

namespace Value.Alike

variable {left right : Value}

theorem literal (alike : left.Alike right) : left.literal.Alike right.literal := by
  cases alike with
  | same => exact Literal.alike_self _
  | string left right => exact .text left right
  | bytes left right => exact .blob left right

theorem literalAs (alike : left.Alike right) (type : StorageType) :
    (left.literalAs type).Alike (right.literalAs type) := by
  cases alike with
  | same => exact Literal.alike_self _
  | string left right => cases type <;> exact .text _ _
  | bytes left right =>
      cases type with
      | text => exact .text _ _
      | _ => exact .blob left right

theorem isNull_eq (alike : left.Alike right) : left.isNull = right.isNull := by
  cases alike <;> rfl

theorem isZero_eq (alike : left.Alike right) : left.isZero = right.isZero := by
  cases alike <;> rfl

end Value.Alike

structure Instance.Alike (left right : Instance) : Prop where
  entity : left.entity = right.entity
  values : ∀ field, Option.Rel Value.Alike (left.value? field) (right.value? field)

theorem Instance.Alike.value {left right : Instance} (alike : left.Alike right)
    (field : String) : (left.value field).Alike (right.value field) := by
  have related := alike.values field
  unfold Instance.value
  generalize left.value? field = first at related ⊢
  generalize right.value? field = second at related ⊢
  cases related with
  | some alike => exact alike
  | none => exact .same .null

theorem Record.alike_toInstance (entity : String) {lefts rights : List (String × Value)}
    (alike : List.Forall₂ (fun left right => left.1 = right.1 ∧ left.2.Alike right.2)
      lefts rights) :
    (Record.toInstance ⟨entity, lefts⟩).Alike (Record.toInstance ⟨entity, rights⟩) := by
  refine ⟨rfl, fun field => ?_⟩
  simp only [toInstance, value?]
  induction alike with
  | nil => exact .none
  | @cons left right lefts rights first _ ih =>
      rw [List.find?_cons, List.find?_cons, ← first.1]
      cases named : left.1 == field with
      | true => exact .some first.2
      | false => exact ih

/-! ## Names without quotes -/

open Sql

def Side.IsQuoteless (side : Side) : Prop :=
  Sql.IsQuoteless side.table ∧ Sql.IsQuoteless side.column

theorem Side.isQuoteless_joinColumn {side : Side} (quoteless : side.IsQuoteless) :
    Sql.IsQuoteless side.joinColumn :=
  isQuoteless_append.mpr ⟨isQuoteless_append.mpr ⟨quoteless.1, by decide⟩, quoteless.2⟩

theorem Side.isQuoteless_linkedTable {side : Side} (quoteless : side.IsQuoteless) :
    (Catalog.linkedTable side).IsQuoteless :=
  ⟨quoteless.1, quoteless.2, isQuoteless_joinColumn quoteless⟩

structure Relationship.HasQuotelessNames (relationship : Relationship) : Prop where
  joinTable : ∀ table ∈ relationship.joinTable?, IsQuoteless table
  foreignKey : ∀ column ∈ relationship.foreignKeyColumn?, IsQuoteless column
  first : relationship.first.IsQuoteless
  second : relationship.second.IsQuoteless

theorem Relationship.HasQuotelessNames.sides {relationship : Relationship} {entity : String}
    {own other : Side} (named : relationship.HasQuotelessNames)
    (sided : relationship.sides entity = .ok (own, other)) :
    own.IsQuoteless ∧ other.IsQuoteless := by
  unfold Relationship.sides at sided
  split at sided
  · cases sided
    exact ⟨named.first, named.second⟩
  · split at sided
    · cases sided
      exact ⟨named.second, named.first⟩
    · cases sided

namespace Catalog

/-- The tables and columns of all entities, and the words that open an insertion of a link. -/
def HasQuotelessNames (catalog : Catalog) : Prop :=
  IsQuoteless catalog.dialect.insertOrIgnore ∧
    ∀ definition ∈ catalog.schema.entities, IsQuoteless definition.tableName ∧
      ∀ field ∈ definition.persistentFields, IsQuoteless field.columnName

variable {catalog : Catalog} {mapping : Mapping} {left right : Instance}

theorem HasQuotelessNames.of_mapping (named : catalog.HasQuotelessNames) {entity : String}
    (mapped : catalog.mapping entity = .ok mapping) :
    IsQuoteless mapping.table ∧
      ∀ field ∈ mapping.columnFields, IsQuoteless field.columnName := by
  obtain ⟨definition, declared, described⟩ := mapping_eq_ok.mp mapped
  obtain ⟨-, -, -, key, -, rfl⟩ := Mapping.ofEntity_eq_ok.mp described
  obtain ⟨table, columns⟩ := named.2 definition (List.mem_of_find?_eq_some declared)
  exact ⟨table, fun field member => columns field (List.mem_of_mem_filter member)⟩

theorem HasQuotelessNames.keyColumn (named : catalog.HasQuotelessNames) {entity : String}
    (mapped : catalog.mapping entity = .ok mapping) : IsQuoteless mapping.keyColumn :=
  (named.of_mapping mapped).2 mapping.key (key_mem_columnFields mapped)

/-! ## Literals -/

theorem sideLiteral_alike (side : Side) {first second : Value} (alike : first.Alike second) :
    SameOutcome Literal.Alike (catalog.sideLiteral side first)
      (catalog.sideLiteral side second) :=
  .bind_shared _ fun type _ => .ok (alike.literalAs type)

theorem fieldLiteral_alike (alike : left.Alike right) (mapping : Mapping) (field : Field) :
    SameOutcome Literal.Alike (catalog.fieldLiteral mapping left field)
      (catalog.fieldLiteral mapping right field) :=
  .bind_shared _ fun type _ => .ok ((alike.value field.name).literalAs type)

theorem keyLiteral_alike (alike : left.Alike right) :
    SameOutcome Literal.Alike (catalog.keyLiteral left) (catalog.keyLiteral right) := by
  unfold keyLiteral
  rw [alike.entity]
  exact .bind_shared _ fun mapping _ => fieldLiteral_alike alike mapping mapping.key

theorem lacksKey_eq (alike : left.Alike right) : catalog.lacksKey left = catalog.lacksKey right := by
  unfold lacksKey keyValue
  rw [alike.entity]
  cases catalog.mapping right.entity with
  | error fault => rfl
  | ok mapping =>
      have value := alike.value mapping.key.name
      simp only [bind, Except.bind, value.isNull_eq, value.isZero_eq]

theorem leavesKeyToStorage_eq (alike : left.Alike right) (mapping : Mapping) :
    catalog.leavesKeyToStorage mapping left = catalog.leavesKeyToStorage mapping right := by
  rw [leavesKeyToStorage, leavesKeyToStorage, lacksKey_eq alike]

theorem literals_alike {write : Value → Literal} {lefts rights : List Value}
    (alike : List.Forall₂ Value.Alike lefts rights)
    (each : ∀ {left right : Value}, left.Alike right → (write left).Alike (write right)) :
    List.Forall₂ Literal.Alike (lefts.map write) (rights.map write) := by
  refine List.rel_map ?_ alike
  intro left right alike
  exact each alike

/-! ## Statements on rows -/

theorem insert_alike (named : catalog.HasQuotelessNames) (alike : left.Alike right) :
    SameOutcome Statement.Alike (catalog.insert left) (catalog.insert right) := by
  unfold insert
  rw [alike.entity]
  refine .bind_shared _ fun mapping mapped => ?_
  rw [leavesKeyToStorage_eq alike]
  refine .bind_shared _ fun skipsKey _ => ?_
  refine .bind (.mapM _ fun field _ => fieldLiteral_alike alike mapping field) ?_
  intro lefts rights literals
  obtain ⟨table, columns⟩ := named.of_mapping mapped
  exact .ok (.insert (by decide) table
    (List.forall_mem_map.mpr fun field member => columns field (List.mem_of_mem_filter member))
    literals)

theorem keyCondition_alike (named : catalog.HasQuotelessNames) {entity : String}
    (mapped : catalog.mapping entity = .ok mapping) {first second : Literal}
    (alike : first.Alike second) :
    Condition.Alike (.compare mapping.keyColumn .equal first)
      (.compare mapping.keyColumn .equal second) :=
  .compare (named.keyColumn mapped) .equal alike

theorem assignments_alike {columns : List String} {lefts rights : List Literal}
    (quoteless : ∀ column ∈ columns, IsQuoteless column)
    (alike : List.Forall₂ Literal.Alike lefts rights) :
    List.Forall₂ (fun left right =>
        left.1 = right.1 ∧ IsQuoteless left.1 ∧ left.2.Alike right.2)
      (columns.zip lefts) (columns.zip rights) := by
  induction alike generalizing columns with
  | nil =>
      rw [List.zip_nil_right]
      exact .nil
  | cons first _ ih =>
      cases columns with
      | nil => exact .nil
      | cons column columns =>
          obtain ⟨columnQuoteless, othersQuoteless⟩ := List.forall_mem_cons.mp quoteless
          exact .cons ⟨rfl, columnQuoteless, first⟩ (ih othersQuoteless)

theorem update_alike (named : catalog.HasQuotelessNames) (alike : left.Alike right) :
    SameOutcome (Option.Rel Statement.Alike) (catalog.update left) (catalog.update right) := by
  unfold update
  rw [alike.entity]
  refine .bind_shared _ fun mapping mapped => ?_
  refine .bind (.mapM _ fun field _ => fieldLiteral_alike alike mapping field) ?_
  intro lefts rights literals
  obtain ⟨table, columns⟩ := named.of_mapping mapped
  split
  · exact .ok .none
  · refine .bind (keyLiteral_alike alike) fun first second keys => ?_
    refine .ok (.some (.update table (assignments_alike ?_ literals)
      (keyCondition_alike named mapped keys)))
    exact List.forall_mem_map.mpr fun field member =>
      columns field (List.mem_of_mem_filter member)

theorem delete_alike (named : catalog.HasQuotelessNames) (alike : left.Alike right) :
    SameOutcome Statement.Alike (catalog.delete left) (catalog.delete right) := by
  unfold delete
  rw [alike.entity]
  refine .bind_shared _ fun mapping mapped => ?_
  refine .bind (keyLiteral_alike alike) fun first second keys => ?_
  exact .ok (.delete (named.of_mapping mapped).1
    (.cons (keyCondition_alike named mapped keys) .nil))

/-! ## Statements on links -/

variable {relationship : Relationship}

theorem joinTable_isQuoteless (named : relationship.HasQuotelessNames) {table : String}
    (tabled : relationship.joinTable = .ok table) : IsQuoteless table :=
  named.joinTable table
    (Relationship.joinTable?_eq_some.mpr (Relationship.joinTable_eq_ok.mp tabled))

theorem collectionColumn_isQuoteless (named : relationship.HasQuotelessNames) {column : String}
    (collected : relationship.collectionColumn = .ok column) : IsQuoteless column := by
  refine named.foreignKey column ?_
  unfold Relationship.collectionColumn at collected
  unfold Relationship.foreignKeyColumn?
  cases kind : relationship.kind with
  | oneToMany own =>
      rw [kind] at collected
      cases collected
      rfl
  | _ => simp [kind] at collected

theorem deleteLinks_alike (named : relationship.HasQuotelessNames) (alike : left.Alike right) :
    SameOutcome Statement.Alike (catalog.deleteLinks relationship left)
      (catalog.deleteLinks relationship right) := by
  unfold deleteLinks
  rw [alike.entity]
  refine .bind_shared _ fun table tabled => .bind_shared _ fun ⟨own, other⟩ sided => ?_
  refine .bind (sideLiteral_alike own (alike.value own.field)) fun first second owners => ?_
  have ownColumn := Side.isQuoteless_joinColumn (named.sides sided).1
  exact .ok (.delete (joinTable_isQuoteless named tabled)
    (.cons (.compare ownColumn .equal owners) .nil))

theorem deleteStaleLinks_alike (named : relationship.HasQuotelessNames)
    (alike : left.Alike right) {lefts rights : List Value}
    (kept : List.Forall₂ Value.Alike lefts rights) :
    SameOutcome Statement.Alike (catalog.deleteStaleLinks relationship left lefts)
      (catalog.deleteStaleLinks relationship right rights) := by
  unfold deleteStaleLinks
  rw [alike.entity]
  refine .bind_shared _ fun table tabled => .bind_shared _ fun ⟨own, other⟩ sided => ?_
  refine .bind (sideLiteral_alike own (alike.value own.field)) fun first second owners => ?_
  obtain ⟨ownNamed, otherNamed⟩ := named.sides sided
  refine .ok (.delete (joinTable_isQuoteless named tabled)
    (.cons (.compare (Side.isQuoteless_joinColumn ownNamed) .equal owners) ?_))
  -- Only lists of the same length are alike, so both statements have the second condition or none.
  cases kept with
  | nil => exact .nil
  | cons first others =>
      have literals := literals_alike (.cons first others) Value.Alike.literal
      exact .cons (.isNotIn (Side.isQuoteless_joinColumn otherNamed) literals) .nil

theorem insertLink_alike (catalogNamed : catalog.HasQuotelessNames)
    (named : relationship.HasQuotelessNames) (alike : left.Alike right) {first second : Value}
    (keys : first.Alike second) :
    SameOutcome Statement.Alike (catalog.insertLink relationship left first)
      (catalog.insertLink relationship right second) := by
  unfold insertLink
  rw [alike.entity]
  refine .bind_shared _ fun table tabled => .bind_shared _ fun ⟨own, other⟩ sided => ?_
  refine .bind (sideLiteral_alike own (alike.value own.field)) fun leftOwner rightOwner owners => ?_
  refine .bind (sideLiteral_alike other keys) fun leftKey rightKey related => ?_
  obtain ⟨ownNamed, otherNamed⟩ := named.sides sided
  have columns : ∀ column ∈ [own.joinColumn, other.joinColumn], IsQuoteless column := by
    intro column member
    simp only [List.mem_cons, List.not_mem_nil, or_false] at member
    rcases member with rfl | rfl
    · exact Side.isQuoteless_joinColumn ownNamed
    · exact Side.isQuoteless_joinColumn otherNamed
  exact .ok (.insert catalogNamed.1 (joinTable_isQuoteless named tabled) columns
    (.cons owners (.cons related .nil)))

theorem updateForeignKeys_alike (catalogNamed : catalog.HasQuotelessNames)
    (named : relationship.HasQuotelessNames) (alike : left.Alike right)
    {lefts rights : List Value} (keys : List.Forall₂ Value.Alike lefts rights) :
    SameOutcome (Option.Rel Statement.Alike) (catalog.updateForeignKeys relationship left lefts)
      (catalog.updateForeignKeys relationship right rights) := by
  unfold updateForeignKeys
  rw [alike.entity]
  refine .bind_shared _ fun column collected => .bind_shared _ fun _ _ => ?_
  cases keys with
  | nil => exact .ok .none
  | @cons first second lefts rights firstAlike others =>
      refine .bind_shared _ fun many mapped => .bind_shared _ fun type _ => ?_
      refine .bind (keyLiteral_alike alike) fun leftOwner rightOwner owners => ?_
      have quoteless := collectionColumn_isQuoteless named collected
      have assigned : List.Forall₂ (fun left right =>
            left.1 = right.1 ∧ IsQuoteless left.1 ∧ left.2.Alike right.2)
          [(column, leftOwner)] [(column, rightOwner)] :=
        .cons ⟨rfl, quoteless, owners⟩ .nil
      have literals := literals_alike (.cons firstAlike others) fun alike =>
        alike.literalAs type
      exact .ok (.some (.update (catalogNamed.of_mapping mapped).1 assigned
        (.isIn (catalogNamed.keyColumn mapped) literals)))

theorem selectLinked_alike (named : relationship.HasQuotelessNames) {first second : Value}
    (keys : first.Alike second) (queried : String) :
    SameOutcome Statement.Alike (selectLinked relationship first queried)
      (selectLinked relationship second queried) := by
  unfold selectLinked
  refine .bind_shared _ fun table tabled => ?_
  have tableNamed := joinTable_isQuoteless named tabled
  have firstNamed := Side.isQuoteless_linkedTable named.first
  have secondNamed := Side.isQuoteless_linkedTable named.second
  dsimp only
  split
  · exact .ok (.selectLinked true firstNamed secondNamed tableNamed keys.literal)
  · split
    · exact .ok (.selectLinked false secondNamed firstNamed tableNamed keys.literal)
    · exact .error _

end Catalog

/-! ## Requests -/

/-- A request for a statement on the row or the links of an instance, or on linked rows. -/
inductive StatementRequest where
  | insert (item : Instance)
  | update (item : Instance)
  | delete (item : Instance)
  | insertLink (relationship : Relationship) (item : Instance) (relatedKey : Value)
  | deleteLinks (relationship : Relationship) (item : Instance)
  | deleteStaleLinks (relationship : Relationship) (item : Instance) (kept : List Value)
  | updateForeignKeys (relationship : Relationship) (owner : Instance)
      (relatedKeys : List Value)
  | selectLinked (relationship : Relationship) (key : Value) (queried : String)

namespace StatementRequest

def relationship? : StatementRequest → Option Relationship
  | .insert _ | .update _ | .delete _ => none
  | .insertLink relationship _ _ | .deleteLinks relationship _
  | .deleteStaleLinks relationship _ _ | .updateForeignKeys relationship _ _
  | .selectLinked relationship _ _ => some relationship

/-- The requests differ at most in the contents of texts and of bytes. -/
inductive Alike : StatementRequest → StatementRequest → Prop where
  | insert {left right : Instance} (items : left.Alike right) :
      Alike (.insert left) (.insert right)
  | update {left right : Instance} (items : left.Alike right) :
      Alike (.update left) (.update right)
  | delete {left right : Instance} (items : left.Alike right) :
      Alike (.delete left) (.delete right)
  | insertLink (relationship : Relationship) {left right : Instance} {first second : Value}
      (items : left.Alike right) (keys : first.Alike second) :
      Alike (.insertLink relationship left first) (.insertLink relationship right second)
  | deleteLinks (relationship : Relationship) {left right : Instance}
      (items : left.Alike right) :
      Alike (.deleteLinks relationship left) (.deleteLinks relationship right)
  | deleteStaleLinks (relationship : Relationship) {left right : Instance}
      {lefts rights : List Value} (items : left.Alike right)
      (keys : List.Forall₂ Value.Alike lefts rights) :
      Alike (.deleteStaleLinks relationship left lefts)
        (.deleteStaleLinks relationship right rights)
  | updateForeignKeys (relationship : Relationship) {left right : Instance}
      {lefts rights : List Value} (items : left.Alike right)
      (keys : List.Forall₂ Value.Alike lefts rights) :
      Alike (.updateForeignKeys relationship left lefts)
        (.updateForeignKeys relationship right rights)
  | selectLinked (relationship : Relationship) {first second : Value}
      (keys : first.Alike second) (queried : String) :
      Alike (.selectLinked relationship first queried)
        (.selectLinked relationship second queried)

end StatementRequest

namespace Catalog

def statement? (catalog : Catalog) : StatementRequest → Except Error (Option Statement)
  | .insert item => some <$> catalog.insert item
  | .update item => catalog.update item
  | .delete item => some <$> catalog.delete item
  | .insertLink relationship item key => some <$> catalog.insertLink relationship item key
  | .deleteLinks relationship item => some <$> catalog.deleteLinks relationship item
  | .deleteStaleLinks relationship item kept =>
      some <$> catalog.deleteStaleLinks relationship item kept
  | .updateForeignKeys relationship owner keys =>
      catalog.updateForeignKeys relationship owner keys
  | .selectLinked relationship key queried => some <$> selectLinked relationship key queried

variable {catalog : Catalog}

theorem statement?_alike (catalogNamed : catalog.HasQuotelessNames)
    {left right : StatementRequest}
    (named : ∀ relationship ∈ left.relationship?, relationship.HasQuotelessNames)
    (alike : left.Alike right) :
    SameOutcome (Option.Rel Statement.Alike) (catalog.statement? left)
      (catalog.statement? right) := by
  cases alike with
  | insert items => exact (insert_alike catalogNamed items).map fun _ _ => .some
  | update items => exact update_alike catalogNamed items
  | delete items => exact (delete_alike catalogNamed items).map fun _ _ => .some
  | insertLink relationship items keys =>
      exact (insertLink_alike catalogNamed (named relationship rfl) items keys).map
        fun _ _ => .some
  | deleteLinks relationship items =>
      exact (deleteLinks_alike (named relationship rfl) items).map fun _ _ => .some
  | deleteStaleLinks relationship items keys =>
      exact (deleteStaleLinks_alike (named relationship rfl) items keys).map fun _ _ => .some
  | updateForeignKeys relationship items keys =>
      exact updateForeignKeys_alike catalogNamed (named relationship rfl) items keys
  | selectLinked relationship keys queried =>
      exact (selectLinked_alike (named relationship rfl) keys queried).map fun _ _ => .some

/-- Requests that differ only in the contents of texts and of bytes fail with the same error, or
both need no statement, or have statements whose tokens are the same but for the contents of
texts and blobs. -/
theorem sameOutcome_tokens (catalogNamed : catalog.HasQuotelessNames)
    {left right : StatementRequest}
    (named : ∀ relationship ∈ left.relationship?, relationship.HasQuotelessNames)
    (alike : left.Alike right) :
    SameOutcome
      (Option.Rel fun first second : Statement =>
        List.Forall₂ Token.Alike (tokens first.render) (tokens second.render))
      (catalog.statement? left) (catalog.statement? right) := by
  refine (statement?_alike catalogNamed named alike).imp fun first second related => ?_
  cases related with
  | some alike => exact .some alike.texts.tokens
  | none => exact .none

/-! ## Posts and their tags -/

def postCatalog : Catalog where
  schema := ⟨[
    { name := "Post"
      fields := [
        { name := "title", type := .scalar .string, isPrimaryKey := true },
        { name := "tags"
          type := .association ⟨"tags", "Tag", .manyToMany "post_tag" "title" "word"⟩ }] },
    { name := "Tag"
      fields := [{ name := "word", type := .scalar .string, isPrimaryKey := true }] }]⟩

def postTags : Relationship where
  name := "tags"
  kind := .manyToMany "post_tag"
  first := ⟨"Post", "post", "title", "title"⟩
  second := ⟨"Tag", "tag", "word", "word"⟩

def post (title : String) : Record := ⟨"Post", [("title", .string title)]⟩

example :
    (postCatalog.deleteStaleLinks postTags (post "it's").toInstance
        [.string "'); DROP TABLE post; --", .null]).map Statement.render =
      .ok ("DELETE FROM post_tag WHERE post_title = 'it''s' AND " ++
        "tag_word NOT IN ('''); DROP TABLE post; --', NULL)") := by
  rfl

theorem sameOutcome_tokens_tags :
    postCatalog.HasQuotelessNames ∧
      (∀ relationship ∈ (StatementRequest.deleteStaleLinks postTags (post "a").toInstance
          [.string "b", .null]).relationship?, relationship.HasQuotelessNames) ∧
      (StatementRequest.deleteStaleLinks postTags (post "a").toInstance
          [.string "b", .null]).Alike
        (.deleteStaleLinks postTags (post "it's").toInstance
          [.string "'); DROP TABLE post; --", .null]) ∧
      SameOutcome
        (Option.Rel fun first second : Statement =>
          List.Forall₂ Token.Alike (tokens first.render) (tokens second.render))
        (postCatalog.statement? (.deleteStaleLinks postTags (post "a").toInstance
          [.string "b", .null]))
        (postCatalog.statement? (.deleteStaleLinks postTags (post "it's").toInstance
          [.string "'); DROP TABLE post; --", .null])) := by
  have catalogNamed : postCatalog.HasQuotelessNames := ⟨by decide, by decide⟩
  have named : postTags.HasQuotelessNames :=
    ⟨by decide, by decide, ⟨by decide, by decide⟩, ⟨by decide, by decide⟩⟩
  have relationshipNamed : ∀ relationship ∈ some postTags, relationship.HasQuotelessNames := by
    rintro relationship ⟨⟩
    exact named
  have items : (post "a").toInstance.Alike (post "it's").toInstance :=
    Record.alike_toInstance "Post" (.cons ⟨rfl, .string _ _⟩ .nil)
  have alike := StatementRequest.Alike.deleteStaleLinks postTags items
    (.cons (.string "b" "'); DROP TABLE post; --") (.cons (.same .null) .nil))
  exact ⟨catalogNamed, relationshipNamed, alike,
    sameOutcome_tokens catalogNamed relationshipNamed alike⟩

end Catalog

end Persistence
