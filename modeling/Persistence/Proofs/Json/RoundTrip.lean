import Persistence.Instance.Codec
import Persistence.Proofs.Json.Reading
import Persistence.Schema.Codec

/-!
# Schemas, records and values read back

What is written as JSON and read again is what it was: every schema, and every record and value
without floats. Names and texts may hold any characters, and repeated names stay repeated.
-/

set_option autoImplicit false

namespace Persistence

namespace Json

variable {α : Type}

/-! ## Forms -/

/-- The JSON form of a value: its text reads as the form, and the form decodes to the value. -/
structure IsFormOf (json : Json) (decode : Json → Option α) (value : α) : Prop where
  plain : json.IsPlain
  decoded : decode json = some value

theorem IsFormOf.read {json : Json} {decode : Json → Option α} {value : α}
    (form : json.IsFormOf decode value) : (read? json.write).bind decode = some value := by
  rw [read?_write form.plain, Option.bind_some, form.decoded]

theorem isFormOf_text (contents : String) : (text contents).IsFormOf text? contents where
  plain := .text contents
  decoded := rfl

theorem isFormOf_bool (value : Bool) : (Json.bool value).IsFormOf bool? value where
  plain := .bool value
  decoded := rfl

theorem isFormOf_array {encode : α → Json} {decode : Json → Option α} {values : List α}
    (each : ∀ value ∈ values, (encode value).IsFormOf decode value) :
    (Json.array (values.map encode)).IsFormOf (list? decode) values where
  plain := by
    refine .array fun item member => ?_
    obtain ⟨value, isValue, rfl⟩ := List.mem_map.mp member
    exact (each value isValue).plain
  decoded := by
    change (values.map encode).mapM decode = some values
    induction values with
    | nil => rfl
    | cons value values ih =>
        obtain ⟨first, others⟩ := List.forall_mem_cons.mp each
        rw [List.map_cons, List.mapM_cons, first.decoded, ih others]
        rfl

theorem isPlain_tagged {name : String} {body : Json} (plain : body.IsPlain) :
    (tagged name body).IsPlain :=
  .record (List.forall_mem_singleton.mpr plain)

theorem IsFormOf.tagged {β : Type} {body : Json} {decode : Json → Option α} {value : α}
    {name : String} {alternatives : Json → Option β} {wrap : α → β}
    (form : body.IsFormOf decode value)
    (chosen : alternatives (tagged name body) = (decode body).map wrap) :
    (tagged name body).IsFormOf alternatives (wrap value) where
  plain := isPlain_tagged form.plain
  decoded := by rw [chosen, form.decoded, Option.map_some]

/-! ## Structures -/

theorem filter_named {members : List (String × Json)} (distinct : (members.map Prod.fst).Nodup)
    {member : String × Json} (isMember : member ∈ members) {accepts : Option String × Json → Bool}
    (named : ∀ name value, accepts (some name, value) = (some name == some member.1)) :
    (members.map fun member => (some member.1, member.2)).filter accepts =
      [(some member.1, member.2)] := by
  induction members with
  | nil => cases isMember
  | cons first rest ih =>
      rw [List.map_cons, List.nodup_cons] at distinct
      obtain ⟨fresh, distinct⟩ := distinct
      rcases List.mem_cons.mp isMember with rfl | inRest
      · have others : (rest.map fun member => (some member.1, member.2)).filter accepts = [] := by
          refine List.filter_eq_nil_iff.mpr fun other isOther same => ?_
          obtain ⟨origin, isOrigin, rfl⟩ := List.mem_map.mp isOther
          rw [named, beq_iff_eq, Option.some.injEq] at same
          exact fresh (same ▸ List.mem_map_of_mem isOrigin)
        have accepted : accepts (some member.1, member.2) = true := by
          rw [named, beq_self_eq_true]
        rw [List.map_cons, List.filter_cons_of_pos accepted, others]
      · have different : ¬ accepts (some first.1, first.2) = true := by
          rw [named, beq_iff_eq, Option.some.injEq]
          exact fun same => fresh (same ▸ List.mem_map_of_mem inRest)
        rw [List.map_cons, List.filter_cons_of_neg different, ih distinct inRest]

theorem member?_record {members : List (String × Json)} (distinct : (members.map Prod.fst).Nodup)
    {member : String × Json} (isMember : member ∈ members) :
    member? member.1 (members.map fun member => (some member.1, member.2)) =
      some (some member.2) := by
  rw [member?, filter_named distinct isMember fun _ _ => rfl]

/-- A structure is decoded field by field if its fields have different names. -/
theorem fields?_record {names : List String} {members : List (String × Json)}
    (named : members.map Prod.fst = names) (distinct : names.Nodup) :
    fields? names (record members) = some (members.map fun member => some member.2) := by
  subst named
  have each : ∀ part ⊆ members, (part.map Prod.fst).mapM
      (fun name => member? name (members.map fun member => (some member.1, member.2))) =
        some (part.map fun member => some member.2) := by
    intro part included
    induction part with
    | nil => rfl
    | cons first rest ih =>
        obtain ⟨isFirst, others⟩ := List.cons_subset.mp included
        rw [List.map_cons, List.mapM_cons, member?_record distinct isFirst, ih others]
        rfl
  refine (if_pos ?_).trans (each members (List.Subset.refl members))
  rw [List.all_map, List.all_eq_true]
  exact fun _ _ => rfl

end Json

open Json

theorem ScalarType.isFormOf (scalar : ScalarType) :
    scalar.toJson.IsFormOf ScalarType.ofJson? scalar where
  plain := .text scalar.name
  decoded := by cases scalar <;> rfl

namespace Schema

theorem isFormOf_mode (isTransient : Bool) :
    (modeToJson isTransient).IsFormOf isTransientOfJson? isTransient where
  plain := .text _
  decoded := by cases isTransient <;> rfl

theorem isFormOf_replacement (replacement : Option String) :
    (replacementToJson replacement).IsFormOf (nullable text?) replacement := by
  cases replacement with
  | none => exact ⟨.null, rfl⟩
  | some name => exact ⟨.text name, rfl⟩

theorem columnAssociation?_record (link : String → Link) (name target column : String) :
    columnAssociation? link (.record
      [("name", .text name), ("target", .text target), ("column", .text column)]) =
        some ⟨name, target, link column⟩ := by
  rw [columnAssociation?, fields?_record]
  · rfl
  · rfl
  · decide

theorem joinTableAssociation?_record (name target table keyField foreignField : String) :
    joinTableAssociation? (.record
      [("name", .text name), ("target", .text target), ("table", .text table),
        ("key_field", .text keyField), ("foreign_field", .text foreignField)]) =
        some ⟨name, target, .manyToMany table keyField foreignField⟩ := by
  rw [joinTableAssociation?, fields?_record]
  · rfl
  · rfl
  · decide

theorem Association.isFormOf (association : Association) :
    association.toJson.IsFormOf Association.ofJson? association := by
  obtain ⟨name, target, link⟩ := association
  cases link with
  | oneToOne column =>
      exact ⟨isPlain_tagged (.record (by simp [IsPlain.text])),
        columnAssociation?_record .oneToOne name target column⟩
  | oneToMany column =>
      exact ⟨isPlain_tagged (.record (by simp [IsPlain.text])),
        columnAssociation?_record .oneToMany name target column⟩
  | manyToMany table keyField foreignField =>
      exact ⟨isPlain_tagged (.record (by simp [IsPlain.text])),
        joinTableAssociation?_record name target table keyField foreignField⟩

theorem FieldType.isFormOf (type : FieldType) :
    type.toJson.IsFormOf FieldType.ofJson? type := by
  cases type with
  | scalar scalar => exact scalar.isFormOf.tagged rfl
  | association association => exact association.isFormOf.tagged rfl

theorem Field.isFormOf (field : Field) : field.toJson.IsFormOf Field.ofJson? field := by
  have type := field.type.isFormOf
  have column := isFormOf_replacement field.column
  have mode := isFormOf_mode field.isTransient
  constructor
  case plain =>
    refine .record ?_
    simp only [List.forall_mem_cons]
    exact ⟨.text _, type.plain, column.plain, .bool _, .bool _, .bool _, .bool _, mode.plain,
      List.forall_mem_nil _⟩
  case decoded =>
    rw [Field.ofJson?, Field.toJson, fields?_record]
    · simp only [List.map_cons, List.map_nil, required, Json.optional, Option.bind_eq_bind,
        Option.bind_some, (isFormOf_text field.name).decoded, (isFormOf_bool _).decoded,
        type.decoded, column.decoded, mode.decoded]
    · rfl
    · decide

theorem Entity.isFormOf (entity : Entity) : entity.toJson.IsFormOf Entity.ofJson? entity := by
  have table := isFormOf_replacement entity.table
  have fields := isFormOf_array fun field (_ : field ∈ entity.fields) => field.isFormOf
  have mode := isFormOf_mode entity.isTransient
  constructor
  case plain =>
    refine .record ?_
    simp only [List.forall_mem_cons]
    exact ⟨.text _, table.plain, fields.plain, .bool _, .bool _, mode.plain,
      List.forall_mem_nil _⟩
  case decoded =>
    rw [Entity.ofJson?, Entity.toJson, fields?_record]
    · simp only [List.map_cons, List.map_nil, required, Json.optional, Option.bind_eq_bind,
        Option.bind_some, (isFormOf_text entity.name).decoded, (isFormOf_bool _).decoded,
        table.decoded, fields.decoded, mode.decoded]
    · rfl
    · decide

end Schema

theorem Schema.isFormOf (schema : Schema) : schema.toJson.IsFormOf Schema.ofJson? schema := by
  have entities := isFormOf_array fun entity (_ : entity ∈ schema.entities) => entity.isFormOf
  constructor
  case plain =>
    refine .record ?_
    exact List.forall_mem_singleton.mpr entities.plain
  case decoded =>
    rw [Schema.ofJson?, Schema.toJson, fields?_record]
    · simp only [List.map_cons, List.map_nil, Json.optional, Option.bind_eq_bind, Option.bind_some,
        entities.decoded]
    · rfl
    · decide

/-! ## Values and records -/

def Value.isFloat : Value → Bool
  | .float32 _ | .float64 _ => true
  | _ => false

theorem isFormOf_int32 (value : Int32) :
    (Json.integer value.toInt).IsFormOf Value.int32OfJson? value where
  plain := .integer _
  decoded := by
    have low := value.le_toInt
    have high := value.toInt_lt
    rw [Value.int32OfJson?, integerWithin?_integer low (by omega), Option.map_some,
      Int32.ofInt_toInt]

theorem isFormOf_int64 (value : Int64) :
    (Json.integer value.toInt).IsFormOf Value.int64OfJson? value where
  plain := .integer _
  decoded := by
    have low := value.le_toInt
    have high := value.toInt_lt
    rw [Value.int64OfJson?, integerWithin?_integer low (by omega), Option.map_some,
      Int64.ofInt_toInt]

theorem isFormOf_byte (value : UInt8) :
    (Json.integer value.toNat).IsFormOf Value.byteOfJson? value where
  plain := .integer _
  decoded := by
    have high := value.toNat_lt
    rw [Value.byteOfJson?, integerWithin?_integer (by omega) (by omega), Option.map_some,
      Int.toNat_natCast, UInt8.ofNat_toNat]

theorem Value.isFormOf {value : Value} (noFloat : value.isFloat = false) :
    value.toJson.IsFormOf Value.ofJson? value := by
  cases value with
  | null => exact ⟨.text "Null", rfl⟩
  | bool value => exact (isFormOf_bool value).tagged rfl
  | int32 value => exact (isFormOf_int32 value).tagged rfl
  | int64 value => exact (isFormOf_int64 value).tagged rfl
  | float32 value => cases noFloat
  | float64 value => cases noFloat
  | string value => exact (isFormOf_text value).tagged rfl
  | bytes value =>
      exact (isFormOf_array fun byte (_ : byte ∈ value) => isFormOf_byte byte).tagged rfl
  | timestamp value => exact (isFormOf_int64 value).tagged rfl

theorem Record.isFormOf_pair {pair : String × Value} (noFloat : pair.2.isFloat = false) :
    (Json.array [.text pair.1, pair.2.toJson]).IsFormOf Record.pairOfJson? pair := by
  have value := Value.isFormOf noFloat
  constructor
  case plain =>
    refine .array ?_
    simp only [List.forall_mem_cons]
    exact ⟨.text _, value.plain, List.forall_mem_nil _⟩
  case decoded =>
    rw [Record.pairOfJson?, value.decoded]
    rfl

theorem Record.isFormOf {record : Record}
    (noFloats : ∀ pair ∈ record.values, pair.2.isFloat = false) :
    record.toJson.IsFormOf Record.ofJson? record := by
  have pairs := isFormOf_array fun pair member => Record.isFormOf_pair (noFloats pair member)
  constructor
  case plain =>
    refine .record ?_
    simp only [List.forall_mem_cons]
    exact ⟨.text _, pairs.plain, List.forall_mem_nil _⟩
  case decoded =>
    rw [Record.ofJson?, Record.toJson, fields?_record]
    · simp only [List.map_cons, List.map_nil, required, Option.bind_eq_bind, Option.bind_some,
        (isFormOf_text record.entity).decoded]
      exact congrArg (fun values => values.bind fun values => some (Record.mk record.entity values))
        pairs.decoded
    · rfl
    · decide

/-- Every schema, and every record and value without floats, reads as itself from the JSON text
written for it. -/
theorem read_write_json :
    (∀ schema : Schema, (Json.read? schema.toJson.write).bind Schema.ofJson? = some schema) ∧
      (∀ record : Record, (∀ pair ∈ record.values, pair.2.isFloat = false) →
        (Json.read? record.toJson.write).bind Record.ofJson? = some record) ∧
      (∀ value : Value, value.isFloat = false →
        (Json.read? value.toJson.write).bind Value.ofJson? = some value) :=
  ⟨fun schema => schema.isFormOf.read, fun _ noFloats => (Record.isFormOf noFloats).read,
    fun _ noFloat => (Value.isFormOf noFloat).read⟩

/-! ## A note -/

/-- A record with a repeated field, whose texts need every kind of escape. -/
def noteRecord : Record where
  entity := "Note"
  values := [("text", .string "\"a\\b\"\n\x01é"), ("text", .int64 (-9223372036854775808)),
    ("raw", .bytes [0, 255])]

theorem read_write_json_note :
    noteRecord.toJson.write =
        "\x7b\"entity\":\"Note\",\"values\":[[\"text\",\x7b\"String\":" ++
        "\"\\\"a\\\\b\\\"\\n\\u0001é\"\x7d],[\"text\",\x7b\"Int64\":-9223372036854775808\x7d]," ++
        "[\"raw\",\x7b\"Bytes\":[0,255]\x7d]]\x7d" ∧
      (∀ pair ∈ noteRecord.values, pair.2.isFloat = false) ∧
      (Json.read? noteRecord.toJson.write).bind Record.ofJson? = some noteRecord ∧
      (Value.timestamp (-1)).isFloat = false ∧
      (Json.read? (Value.timestamp (-1)).toJson.write).bind Value.ofJson? =
        some (.timestamp (-1)) :=
  ⟨by decide +kernel, by decide, read_write_json.2.1 noteRecord (by decide), rfl,
    read_write_json.2.2 (.timestamp (-1)) rfl⟩

end Persistence
