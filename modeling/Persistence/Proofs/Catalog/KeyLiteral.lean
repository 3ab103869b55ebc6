import Persistence.Proofs.Catalog.JoinTable

/-!
# Literals of linked keys

How the statements on the links of a relationship between two entities write the key of a side.
Where a link is added or an owner's links are removed, a key is written in the type of the side's
field; where linked rows are selected and where links are kept, by its own kind. The two agree
unless the field is kept as text and the key is neither text nor null.
-/

set_option autoImplicit false

namespace Persistence

/-! ## Texts of literals -/

theorem length_doubleQuotes (characters : List Char) :
    characters.length ≤ (doubleQuotes characters).length := by
  fun_induction doubleQuotes characters with
  | case1 => exact Nat.le_refl 0
  | case2 rest ih =>
      simp only [List.length_cons]
      omega
  | case3 character rest _ ih =>
      simp only [List.length_cons]
      omega

theorem quoted_ne (text : String) : quoted text ≠ text := by
  intro same
  have characters : (quoted text).toList.length = text.toList.length := by rw [same]
  have longer := length_doubleQuotes text.toList
  rw [quoted, String.toList_ofList] at characters
  simp only [List.length_cons, List.length_append, List.length_nil] at characters
  omega

namespace Value

def IsTextOrNull (value : Value) : Prop := value.isNull = true ∨ value.text?.isSome = true

theorem render_literal_eq_iff {type : StorageType} (value : Value) :
    value.literal.render = (value.literalAs type).render ↔
      (type = .text → value.IsTextOrNull) := by
  by_cases textual : type = .text
  · subst textual
    unfold IsTextOrNull
    cases value with
    | null | string text => simp [literal, literalAs, bareText, isNull, text?]
    | _ =>
        -- The text of the value is put into quotes, so that it is not the same text any more.
        refine iff_of_false ?_ (by simp [isNull, text?])
        exact fun same => quoted_ne _ same.symm
  · rw [literalAs_of_ne_text textual value]
    exact iff_of_true rfl fun same => absurd same textual

end Value

/-! ## Places of keys -/

/-- The places at which the statements on the links of a relationship write a key. -/
inductive KeyPlace where
  /-- The row whose linked rows are selected. -/
  | anchor
  /-- The owner of links of which the stale ones are removed. -/
  | ownerOfStale
  /-- A row that stays linked when stale links are removed. -/
  | kept
  | ownerOfRemoved
  | ownerOfAdded
  | addedCounterpart

/-- The literal of a key in a column of the given type, at each place. -/
def KeyPlace.literal (type : StorageType) (value : Value) : KeyPlace → Literal
  | .anchor | .kept => value.literal
  | .ownerOfStale | .ownerOfRemoved | .ownerOfAdded | .addedCounterpart => value.literalAs type

def Relationship.HasSides (relationship : Relationship) (side other : Side) : Prop :=
  side = relationship.first ∧ other = relationship.second ∨
    side = relationship.second ∧ other = relationship.first

theorem Relationship.sides_of_hasSides {relationship : Relationship} {side other : Side}
    (sided : relationship.HasSides side other)
    (apart : relationship.first.entity ≠ relationship.second.entity) :
    relationship.sides side.entity = .ok (side, other) ∧
      relationship.sides other.entity = .ok (other, side) := by
  rcases sided with ⟨rfl, rfl⟩ | ⟨rfl, rfl⟩ <;> simp [sides, apart]

namespace Catalog

variable {catalog : Catalog} {relationship : Relationship} {table : String} {side other : Side}
  {type : StorageType} {value : Value}

/-- A statement on the links writes a value that is a key of the side as the literal, at the
place. -/
inductive WritesKey (catalog : Catalog) (relationship : Relationship) (side : Side)
    (value : Value) : KeyPlace → Literal → Prop
  | anchor {queried table : String} {selectedFirst : Bool} {linked : LinkedTable}
      {literal : Literal}
      (selected : selectLinked relationship value queried =
        .ok (.selectLinked selectedFirst linked (linkedTable side) table literal)) :
      WritesKey catalog relationship side value .anchor literal
  | ownerOfStale {item : Instance} {other : Side} {keys : List Value} {table : String}
      {literal : Literal} {kept : List Condition}
      (sided : relationship.sides item.entity = .ok (side, other))
      (holds : item.value side.field = value)
      (removed : catalog.deleteStaleLinks relationship item keys =
        .ok (.delete table (.compare side.joinColumn .equal literal :: kept))) :
      WritesKey catalog relationship side value .ownerOfStale literal
  | kept {item : Instance} {own : Side} {keys : List Value} {place : Nat} {table : String}
      {owner : Condition} {literals : List Literal} {literal : Literal}
      (sided : relationship.sides item.entity = .ok (own, side))
      (removed : catalog.deleteStaleLinks relationship item keys =
        .ok (.delete table [owner, .isNotIn side.joinColumn literals]))
      (isKey : keys[place]? = some value) (isLiteral : literals[place]? = some literal) :
      WritesKey catalog relationship side value .kept literal
  | ownerOfRemoved {item : Instance} {other : Side} {table : String} {literal : Literal}
      (sided : relationship.sides item.entity = .ok (side, other))
      (holds : item.value side.field = value)
      (removed : catalog.deleteLinks relationship item =
        .ok (.delete table [.compare side.joinColumn .equal literal])) :
      WritesKey catalog relationship side value .ownerOfRemoved literal
  | ownerOfAdded {item : Instance} {other : Side} {key : Value} {opening table : String}
      {literal related : Literal}
      (sided : relationship.sides item.entity = .ok (side, other))
      (holds : item.value side.field = value)
      (added : catalog.insertLink relationship item key =
        .ok (.insert opening table [side.joinColumn, other.joinColumn] [literal, related])) :
      WritesKey catalog relationship side value .ownerOfAdded literal
  | addedCounterpart {item : Instance} {own : Side} {opening table : String}
      {owner literal : Literal}
      (sided : relationship.sides item.entity = .ok (own, side))
      (added : catalog.insertLink relationship item value =
        .ok (.insert opening table [own.joinColumn, side.joinColumn] [owner, literal])) :
      WritesKey catalog relationship side value .addedCounterpart literal

theorem sideLiteral_eq_ok (typed : catalog.storageType side.entity side.field = .ok type)
    {literal : Literal} (written : catalog.sideLiteral side value = .ok literal) :
    literal = value.literalAs type := by
  rw [sideLiteral_of_storageType typed] at written
  cases written
  rfl

theorem literal_of_writesKey (typed : catalog.storageType side.entity side.field = .ok type)
    {place : KeyPlace} {literal : Literal}
    (written : catalog.WritesKey relationship side value place literal) :
    literal = place.literal type value := by
  cases written with
  | anchor selected =>
      obtain ⟨_, -, ⟨-, shape⟩ | ⟨-, -, shape⟩⟩ := selectLinked_eq_ok.mp selected
      · exact (Statement.selectLinked.inj shape).2.2.2.2
      · exact (Statement.selectLinked.inj shape).2.2.2.2
  | ownerOfStale sided holds removed =>
      obtain ⟨_, own, _, owner, -, owned, isOwner, shape⟩ := deleteStaleLinks_eq_ok.mp removed
      rw [sided] at owned
      cases owned
      cases shape
      rw [holds] at isOwner
      exact sideLiteral_eq_ok typed isOwner
  | @kept item own keys place _ _ literals _ sided removed isKey isLiteral =>
      obtain ⟨_, _, _, _, -, owned, -, shape⟩ := deleteStaleLinks_eq_ok.mp removed
      rw [sided] at owned
      cases owned
      cases keys with
      | nil => cases shape
      | cons first rest =>
          cases shape
          rw [List.getElem?_map, isKey] at isLiteral
          cases isLiteral
          rfl
  | ownerOfRemoved sided holds removed =>
      obtain ⟨_, own, _, owner, -, owned, isOwner, shape⟩ := deleteLinks_eq_ok.mp removed
      rw [sided] at owned
      cases owned
      cases shape
      rw [holds] at isOwner
      exact sideLiteral_eq_ok typed isOwner
  | ownerOfAdded sided holds added =>
      obtain ⟨_, own, _, owner, -, owned, isOwner, related, -, shape⟩ := insertLink_eq_ok.mp added
      rw [sided] at owned
      cases owned
      cases shape
      rw [holds] at isOwner
      exact sideLiteral_eq_ok typed isOwner
  | addedCounterpart sided added =>
      obtain ⟨_, own, _, owner, -, owned, -, related, isRelated, shape⟩ :=
        insertLink_eq_ok.mp added
      rw [sided] at owned
      cases owned
      cases shape
      exact sideLiteral_eq_ok typed isRelated

theorem exists_writesKey_anchor (linked : relationship.kind = .manyToMany table)
    (sided : relationship.HasSides side other)
    (apart : relationship.first.entity ≠ relationship.second.entity) (value : Value) :
    ∃ literal, catalog.WritesKey relationship side value .anchor literal := by
  have tabled := Relationship.joinTable?_eq_some.mpr linked
  rcases sided with ⟨rfl, rfl⟩ | ⟨rfl, rfl⟩
  · have selected : selectLinked relationship value relationship.second.entity = .ok _ :=
      selectLinked_eq_ok.mpr ⟨table, tabled, .inr ⟨apart, rfl, rfl⟩⟩
    exact ⟨_, .anchor selected⟩
  · have selected : selectLinked relationship value relationship.first.entity = .ok _ :=
      selectLinked_eq_ok.mpr ⟨table, tabled, .inl ⟨rfl, rfl⟩⟩
    exact ⟨_, .anchor selected⟩

theorem exists_writesKey {otherType : StorageType}
    (linked : relationship.kind = .manyToMany table) (sided : relationship.HasSides side other)
    (apart : relationship.first.entity ≠ relationship.second.entity)
    (typed : catalog.storageType side.entity side.field = .ok type)
    (otherTyped : catalog.storageType other.entity other.field = .ok otherType) (value : Value)
    (place : KeyPlace) :
    ∃ literal, catalog.WritesKey relationship side value place literal := by
  -- A row on each side: one that has the value, and one that has none.
  let holder : Instance := ⟨side.entity, fun _ => some value⟩
  let counterpart : Instance := ⟨other.entity, fun _ => none⟩
  have tabled := Relationship.joinTable?_eq_some.mpr linked
  obtain ⟨ofHolder, ofCounterpart⟩ :
      relationship.sides holder.entity = .ok (side, other) ∧
        relationship.sides counterpart.entity = .ok (other, side) :=
    Relationship.sides_of_hasSides sided apart
  have written := sideLiteral_of_storageType typed value
  have otherWritten := sideLiteral_of_storageType otherTyped .null
  cases place with
  | anchor => exact exists_writesKey_anchor linked sided apart value
  | ownerOfStale =>
      have removed : catalog.deleteStaleLinks relationship holder [] = .ok _ :=
        deleteStaleLinks_eq_ok.mpr ⟨table, side, other, _, tabled, ofHolder, written, rfl⟩
      exact ⟨_, .ownerOfStale ofHolder rfl removed⟩
  | kept =>
      have removed : catalog.deleteStaleLinks relationship counterpart [value] = .ok _ :=
        deleteStaleLinks_eq_ok.mpr
          ⟨table, other, side, _, tabled, ofCounterpart, otherWritten, rfl⟩
      have isKey : [value][0]? = some value := rfl
      exact ⟨_, .kept ofCounterpart removed isKey rfl⟩
  | ownerOfRemoved =>
      have removed : catalog.deleteLinks relationship holder = .ok _ :=
        deleteLinks_eq_ok.mpr ⟨table, side, other, _, tabled, ofHolder, written, rfl⟩
      exact ⟨_, .ownerOfRemoved ofHolder rfl removed⟩
  | ownerOfAdded =>
      have added : catalog.insertLink relationship holder .null = .ok _ :=
        insertLink_eq_ok.mpr
          ⟨table, side, other, _, tabled, ofHolder, written, _, otherWritten, rfl⟩
      exact ⟨_, .ownerOfAdded ofHolder rfl added⟩
  | addedCounterpart =>
      have added : catalog.insertLink relationship counterpart value = .ok _ :=
        insertLink_eq_ok.mpr
          ⟨table, other, side, _, tabled, ofCounterpart, otherWritten, _, written, rfl⟩
      exact ⟨_, .addedCounterpart ofCounterpart added⟩

/-- Every statement on the links writes the key of a side in the type of the side's field exactly
if the field is not kept as text or the key is text or null. Elsewhere the selection of linked rows
and the keys that stay linked have it by its own kind. -/
theorem writesKey_typed_iff (linked : relationship.kind = .manyToMany table)
    (apart : relationship.first.entity ≠ relationship.second.entity)
    (sided : relationship.HasSides side other)
    (typed : catalog.storageType side.entity side.field = .ok type) (value : Value) :
    ((∀ place literal, catalog.WritesKey relationship side value place literal →
        literal.render = (value.literalAs type).render) ↔
      (type = .text → value.IsTextOrNull)) ∧
    (∀ place literal, catalog.WritesKey relationship side value place literal →
      literal = place.literal type value) ∧
    (∀ otherType, catalog.storageType other.entity other.field = .ok otherType →
      ∀ place, ∃ literal, catalog.WritesKey relationship side value place literal) := by
  refine ⟨⟨?_, ?_⟩, fun _ _ => literal_of_writesKey typed, fun otherType otherTyped =>
    exists_writesKey linked sided apart typed otherTyped value⟩
  · intro alike
    obtain ⟨literal, written⟩ := exists_writesKey_anchor linked sided apart value
    have same := alike .anchor literal written
    rw [literal_of_writesKey typed written] at same
    exact (Value.render_literal_eq_iff value).mp same
  · intro fits place literal written
    rw [literal_of_writesKey typed written]
    cases place with
    | anchor | kept => exact (Value.render_literal_eq_iff value).mpr fits
    | ownerOfStale | ownerOfRemoved | ownerOfAdded | addedCounterpart => rfl

/-! ## Visitors -/

/-- Visitors are known by the text on their badge, rooms by a number. -/
def visitorCatalog : Catalog where
  schema := ⟨[
    { name := "Visitor"
      fields := [
        { name := "badge", type := .scalar .string, isPrimaryKey := true },
        { name := "rooms"
          type := .association ⟨"rooms", "Room", .manyToMany "access" "badge" "id"⟩ }] },
    { name := "Room"
      fields := [{ name := "id", type := .scalar .int64, isPrimaryKey := true }] }]⟩

def visitorSide : Side := ⟨"Visitor", "visitor", "badge", "badge"⟩

def roomSide : Side := ⟨"Room", "room", "id", "id"⟩

def roomAccess : Relationship := ⟨"rooms", .manyToMany "access", visitorSide, roomSide⟩

theorem writesKey_typed_iff_visitor :
    visitorCatalog.relationship "Visitor" "rooms" = .ok roomAccess ∧
      ((∀ place literal,
          visitorCatalog.WritesKey roomAccess visitorSide (.string "a7") place literal →
            literal.render = ((Value.string "a7").literalAs .text).render) ↔
        (StorageType.text = .text → (Value.string "a7").IsTextOrNull)) ∧
      (∀ place literal,
        visitorCatalog.WritesKey roomAccess visitorSide (.string "a7") place literal →
          literal = place.literal .text (.string "a7")) ∧
      (∀ otherType, visitorCatalog.storageType "Room" "id" = .ok otherType →
        ∀ place, ∃ literal,
          visitorCatalog.WritesKey roomAccess visitorSide (.string "a7") place literal) :=
  ⟨rfl, @writesKey_typed_iff visitorCatalog roomAccess "access" visitorSide roomSide .text
    rfl (by decide) (.inl ⟨rfl, rfl⟩) rfl (.string "a7")⟩

def numberedVisitor : Record := ⟨"Visitor", [("badge", .int64 100)]⟩

def archive : Record := ⟨"Room", [("id", .int64 42)]⟩

/-- The number of a badge is put into quotes where the visitor's links are removed or a room is
linked with the visitor, and stays bare where the rooms are selected and where the link is kept. -/
theorem not_writesKey_typed_visitor :
    visitorCatalog.relationship "Visitor" "rooms" = .ok roomAccess ∧
      (visitorCatalog.deleteLinks roomAccess numberedVisitor.toInstance).map Statement.render =
        .ok "DELETE FROM access WHERE visitor_badge = '100'" ∧
      (visitorCatalog.insertLink roomAccess archive.toInstance (.int64 100)).map Statement.render =
        .ok "INSERT OR IGNORE INTO access (room_id, visitor_badge) VALUES (42, '100')" ∧
      (selectLinked roomAccess (.int64 100) "Room").map Statement.render =
        .ok ("SELECT x.* FROM visitor y, room x, access z WHERE z.room_id = x.id AND " ++
          "z.visitor_badge = y.badge AND y.badge = 100") ∧
      (visitorCatalog.deleteStaleLinks roomAccess archive.toInstance [.int64 100]).map
          Statement.render =
        .ok "DELETE FROM access WHERE room_id = 42 AND visitor_badge NOT IN (100)" ∧
      ¬ ∀ place literal,
        visitorCatalog.WritesKey roomAccess visitorSide (.int64 100) place literal →
          literal.render = ((Value.int64 100).literalAs .text).render := by
  refine ⟨rfl, rfl, rfl, rfl, rfl, fun alike => ?_⟩
  have selected : selectLinked roomAccess (.int64 100) "Room" =
      .ok (.selectLinked false (linkedTable roomSide) (linkedTable visitorSide) "access"
        (Value.int64 100).literal) := rfl
  exact absurd (alike .anchor _ (.anchor selected)) (by decide)

end Catalog

end Persistence
