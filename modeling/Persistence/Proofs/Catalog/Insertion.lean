import Persistence.Proofs.Catalog.Resolution
import Persistence.Sql.Change

/-!
# Inserted columns

What an insertion lists: the columns of the entity in the order of their declaration, each with
the value that the instance has for it. The key is left out where storage generates it, and with
it the only column of an entity that has no other.
-/

set_option autoImplicit false

namespace Persistence

open Schema

/-- Storage generates the key of the instance: it is declared so, and the instance has none, null
or the number zero. -/
def Mapping.GeneratesKey (mapping : Mapping) (item : Instance) : Prop :=
  mapping.key.isAutoIncrement = true ∧
    ∀ value, item.value? mapping.key.name = some value →
      value.isNull = true ∨ value.isZero = true

namespace Catalog

variable {catalog : Catalog} {entity : String} {mapping : Mapping} {item : Instance}
  {statement : Statement}

/-! ## Keys left to storage -/

theorem lacksKey_eq_ok (mapped : catalog.mapping item.entity = .ok mapping) {lacks : Bool}
    (answered : catalog.lacksKey item = .ok lacks) :
    lacks = true ↔ ∀ value, item.value? mapping.key.name = some value →
      value.isNull = true ∨ value.isZero = true := by
  obtain ⟨key, keyed, shape⟩ := bind_eq_ok.mp answered
  obtain ⟨found, foundMapped, keyIs⟩ := bind_eq_ok.mp keyed
  rw [mapped] at foundMapped
  cases foundMapped
  cases keyIs
  cases shape
  rw [Bool.or_eq_true, Instance.value]
  cases item.value? mapping.key.name with
  | none => simp [Value.isNull]
  | some value => simp

theorem isAutoIncrement_key (mapped : catalog.mapping entity = .ok mapping) {generated : Bool}
    (answered : catalog.isAutoIncrement entity mapping.key.name = .ok generated) :
    generated = mapping.key.isAutoIncrement := by
  obtain ⟨found, foundMapped, continuation⟩ := bind_eq_ok.mp answered
  rw [mapped] at foundMapped
  cases foundMapped
  obtain ⟨field, isField, decided⟩ := bind_eq_ok.mp continuation
  have keyFound := field?_of_mem mapped (List.mem_of_mem_filter (key_mem_columnFields mapped))
  rw [Mapping.field_eq_ok, keyFound] at isField
  cases isField
  have isKey : mapping.isKey mapping.key.name = true := beq_self_eq_true _
  rw [isKey] at decided
  cases declared : mapping.key.isAutoIncrement with
  | false =>
      simp only [declared, Bool.not_false, Bool.true_or, if_true] at decided
      cases decided
      rfl
  | true =>
      simp only [declared, Bool.not_true, Bool.or_self, Bool.false_eq_true, if_false] at decided
      split at decided
      · cases decided
        rfl
      · cases decided

theorem leavesKeyToStorage_eq_ok (mapped : catalog.mapping item.entity = .ok mapping)
    {skipsKey : Bool} (answered : catalog.leavesKeyToStorage mapping item = .ok skipsKey) :
    skipsKey = true ↔ mapping.GeneratesKey item := by
  obtain ⟨lacks, lacking, decided⟩ := bind_eq_ok.mp answered
  rw [Mapping.GeneratesKey, ← lacksKey_eq_ok mapped lacking]
  cases lacks with
  | false =>
      cases decided
      simp
  | true =>
      rw [if_pos rfl, mapping_entity mapped] at decided
      rw [isAutoIncrement_key mapped decided]
      simp

/-! ## Rows inserted -/

/-- The fields that an insertion lists, given whether it leaves the key to storage. -/
def listedFields (mapping : Mapping) (skipsKey : Bool) : List Field :=
  mapping.columnFields.filter fun field => !(skipsKey && mapping.isKey field.name)

theorem insert_eq_ok (mapped : catalog.mapping item.entity = .ok mapping) :
    catalog.insert item = .ok statement ↔
      ∃ skipsKey values, catalog.leavesKeyToStorage mapping item = .ok skipsKey ∧
        List.Forall₂ (fun field value => catalog.fieldLiteral mapping item field = .ok value)
          (listedFields mapping skipsKey) values ∧
        statement = .insert "INSERT INTO" mapping.table
          ((listedFields mapping skipsKey).map Field.columnName) values := by
  constructor
  · intro inserted
    obtain ⟨found, foundMapped, continuation⟩ := bind_eq_ok.mp inserted
    rw [mapped] at foundMapped
    cases foundMapped
    obtain ⟨skipsKey, skipped, continuation⟩ := bind_eq_ok.mp continuation
    obtain ⟨values, written, finished⟩ := bind_eq_ok.mp continuation
    cases finished
    exact ⟨skipsKey, values, skipped, mapM_eq_ok.mp written, rfl⟩
  · rintro ⟨skipsKey, values, skipped, written, rfl⟩
    refine bind_eq_ok.mpr ⟨mapping, mapped, bind_eq_ok.mpr ⟨skipsKey, skipped, ?_⟩⟩
    exact bind_eq_ok.mpr ⟨values, mapM_eq_ok.mpr written, rfl⟩

theorem listedFields_of_not {skipsKey : Bool} (keeps : skipsKey = false) :
    listedFields mapping skipsKey = mapping.columnFields := by
  rw [keeps]
  exact List.filter_eq_self.mpr fun _ _ => rfl

theorem listedFields_true (mapped : catalog.mapping entity = .ok mapping) :
    listedFields mapping true = mapping.columnFields.filter (· ≠ mapping.key) := by
  apply List.filter_congr
  intro field member
  -- Names are distinct, so that the field with the name of the key is the key.
  have isKey : mapping.isKey field.name = decide (field = mapping.key) := by
    rw [Bool.eq_iff_iff, Mapping.isKey, beq_iff_eq, decide_eq_true_iff]
    constructor
    · exact List.inj_on_of_nodup_map (nodup_fieldNames mapped) (List.mem_of_mem_filter member)
        (List.mem_of_mem_filter (key_mem_columnFields mapped))
    · exact congrArg Field.name
  rw [isKey, Bool.true_and, decide_not]

theorem nodup_columnFields (mapped : catalog.mapping entity = .ok mapping) :
    mapping.columnFields.Nodup :=
  ((nodup_fieldNames mapped).of_map Field.name).sublist List.filter_sublist

/-- The insertion lists the columns of the fields in order, each with the literal of the value
that the instance has for the field. -/
inductive Inserts (catalog : Catalog) (item : Instance) (table : String) (fields : List Field) :
    Statement → Prop
  | intro {values : List Literal} (count : values.length = fields.length)
      (each : ∀ (place : Nat) (field : Field), fields[place]? = some field →
        ∃ type, catalog.storageType item.entity field.name = .ok type ∧
          values[place]? = some ((item.value field.name).literalAs type)) :
      Inserts catalog item table fields
        (.insert "INSERT INTO" table (fields.map Field.columnName) values)

theorem inserts_of_fieldLiterals (mapped : catalog.mapping item.entity = .ok mapping)
    {fields : List Field} {values : List Literal}
    (written : List.Forall₂
      (fun field value => catalog.fieldLiteral mapping item field = .ok value) fields values) :
    catalog.Inserts item mapping.table fields
      (.insert "INSERT INTO" mapping.table (fields.map Field.columnName) values) := by
  apply Inserts.intro written.length_eq.symm
  induction written with
  | nil => exact fun place field isField => absurd isField (by simp)
  | cons first _ ih =>
      intro place field isField
      cases place with
      | zero =>
          cases isField
          obtain ⟨type, typed, isValue⟩ := bind_eq_ok.mp first
          cases isValue
          rw [mapping_entity mapped] at typed
          exact ⟨type, typed, rfl⟩
      | succ place => exact ih place field isField

/-- An insertion lists the column fields of the entity in order, without the key exactly if
storage generates it, and each with its value. It lists none at all exactly if storage generates
the key and the key is the only column. -/
theorem inserts_columns_iff (inserted : catalog.insert item = .ok statement) :
    ∃ mapping fields, catalog.mapping item.entity = .ok mapping ∧
      catalog.Inserts item mapping.table fields statement ∧
      (mapping.GeneratesKey item → fields = mapping.columnFields.filter (· ≠ mapping.key)) ∧
      (¬ mapping.GeneratesKey item → fields = mapping.columnFields) ∧
      (mapping.key ∉ fields ↔ mapping.GeneratesKey item) ∧
      (1 ≤ fields.length ↔
        ¬ (mapping.GeneratesKey item ∧ mapping.columnFields = [mapping.key])) := by
  obtain ⟨mapping, mapped, -⟩ := bind_eq_ok.mp inserted
  obtain ⟨skipsKey, values, skipped, written, rfl⟩ := (insert_eq_ok mapped).mp inserted
  have generates := leavesKeyToStorage_eq_ok mapped skipped
  have keyMember := key_mem_columnFields mapped
  refine ⟨mapping, listedFields mapping skipsKey, mapped,
    inserts_of_fieldLiterals mapped written, ?_⟩
  cases skipsKey with
  | false =>
      have keeps : ¬ mapping.GeneratesKey item := fun generated => nomatch generates.mpr generated
      rw [listedFields_of_not rfl]
      refine ⟨fun generated => absurd generated keeps, fun _ => rfl, ?_, ?_⟩
      · exact iff_of_false (not_not_intro keyMember) keeps
      · exact iff_of_true (List.length_pos_of_mem keyMember) fun generated => keeps generated.1
  | true =>
      have generated : mapping.GeneratesKey item := generates.mp rfl
      rw [listedFields_true mapped]
      refine ⟨fun _ => rfl, fun keeps => absurd generated keeps, ?_, ?_⟩
      · exact iff_of_true (by simp) generated
      · have single : mapping.columnFields = [mapping.key] ↔ _ :=
          eq_singleton_iff_of_nodup (nodup_columnFields mapped)
        rw [single, Nat.one_le_iff_ne_zero, Ne, List.length_eq_zero_iff, List.filter_eq_nil_iff]
        simp [generated, keyMember]

/-! ## Parcels and tags -/

/-- Parcels and tags are numbered by storage. A tag has nothing but its number. -/
def parcelCatalog : Catalog where
  schema := ⟨[
    { name := "Parcel"
      fields := [
        { name := "weight", type := .scalar .float64, column := some "grams" },
        { name := "number", type := .scalar .int64, isPrimaryKey := true, isAutoIncrement := true },
        { name := "tag"
          type := .association ⟨"parcel_tag", "Tag", .oneToOne "tag_id"⟩ },
        { name := "parts"
          type := .association ⟨"parcel_parts", "Parcel", .oneToMany "tag_id"⟩ }] },
    { name := "Tag"
      fields := [
        { name := "id", type := .scalar .int32, isPrimaryKey := true, isAutoIncrement := true }] }]⟩

def parcel : Record := ⟨"Parcel", [("number", .int64 0), ("tag", .int32 7)]⟩

example : (parcelCatalog.insert parcel.toInstance).map Statement.render =
    .ok "INSERT INTO parcel (grams, tag_id) VALUES (NULL, 7)" := by
  rfl

theorem inserts_columns_iff_parcel :
    ∃ statement, parcelCatalog.insert parcel.toInstance = .ok statement ∧
      ∃ mapping fields, parcelCatalog.mapping parcel.entity = .ok mapping ∧
        parcelCatalog.Inserts parcel.toInstance mapping.table fields statement ∧
        (mapping.GeneratesKey parcel.toInstance →
          fields = mapping.columnFields.filter (· ≠ mapping.key)) ∧
        (¬ mapping.GeneratesKey parcel.toInstance → fields = mapping.columnFields) ∧
        (mapping.key ∉ fields ↔ mapping.GeneratesKey parcel.toInstance) ∧
        (1 ≤ fields.length ↔
          ¬ (mapping.GeneratesKey parcel.toInstance ∧ mapping.columnFields = [mapping.key])) :=
  ⟨_, rfl, @inserts_columns_iff parcelCatalog parcel.toInstance _ rfl⟩

/-- The insertion of a tag without a number lists nothing, which SQL does not allow. A change of
a tag is no statement at all. -/
theorem not_inserts_columns_tag :
    parcelCatalog.insert (Record.toInstance ⟨"Tag", []⟩) = .ok (.insert "INSERT INTO" "tag" [] []) ∧
      Statement.render (.insert "INSERT INTO" "tag" [] []) = "INSERT INTO tag () VALUES ()" ∧
      parcelCatalog.update (Record.toInstance ⟨"Tag", []⟩) = .ok none :=
  ⟨rfl, rfl, rfl⟩

end Catalog

end Persistence
