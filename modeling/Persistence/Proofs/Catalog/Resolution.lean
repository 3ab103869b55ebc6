import Mathlib.Data.List.Nodup
import Persistence.Instance.Basic
import Persistence.Proofs.Outcome
import Persistence.Query

/-!
# Resolved mappings and relationships

What a mapping and a relationship say once the catalog has resolved them: which entities they
come from, and which field and column each side of a relationship has.
-/

set_option autoImplicit false

namespace Persistence

open Schema

theorem find?_of_nodup_names {α : Type} {name : α → String} {values : List α}
    (distinct : (values.map name).Nodup) {value : α} (member : value ∈ values) :
    values.find? (fun other => name other == name value) = some value := by
  obtain ⟨other, found⟩ := Option.isSome_iff_exists.mp
    (List.find?_isSome (p := fun other => name other == name value) |>.mpr
      ⟨value, member, beq_self_eq_true (name value)⟩)
  have same : name other = name value := by simpa using List.find?_some found
  rw [found, List.inj_on_of_nodup_map distinct (List.mem_of_find?_eq_some found) member same]

theorem eq_singleton_iff_of_nodup {α : Type} {values : List α} (distinct : values.Nodup)
    {value : α} : values = [value] ↔ value ∈ values ∧ ∀ other ∈ values, other = value := by
  constructor
  · rintro rfl
    exact ⟨List.mem_singleton_self value, fun other => List.mem_singleton.mp⟩
  · rintro ⟨member, unique⟩
    have repeated := List.eq_replicate_iff.mpr ⟨rfl, unique⟩
    rw [repeated, List.nodup_replicate] at distinct
    have nonempty := List.length_pos_of_mem member
    rw [repeated, show values.length = 1 by omega]
    rfl

/-! ## Mappings -/

/-- An entity has a mapping exactly if it is stored, stores fields of distinct names, and has a
primary key; the mapping is then read off the entity. -/
theorem Mapping.ofEntity_eq_ok {inference : KeyInference} {definition : Entity}
    {mapping : Mapping} :
    Mapping.ofEntity inference definition = .ok mapping ↔
      definition.isTransient = false ∧ definition.persistentFields ≠ [] ∧
        Mapping.firstRepeated? [] (definition.persistentFields.map Field.name) = none ∧
        ∃ key, Mapping.keyOf inference definition.name definition.persistentFields = .ok key ∧
          mapping = {
            entity := definition.name
            table := definition.tableName
            fields := definition.persistentFields
            key := key
            isLazy := definition.isLazy
            isCascading := definition.isCascading } := by
  unfold Mapping.ofEntity
  cases transient : definition.isTransient with
  | true => simp [bind, Except.bind]
  | false =>
      cases stored : definition.persistentFields with
      | nil => simp [bind, Except.bind]
      | cons first rest =>
          simp only [Bool.false_eq_true, ↓reduceIte, List.isEmpty_cons, bind_eq_ok]
          cases repeated : Mapping.firstRepeated? [] (List.map Field.name (first :: rest)) with
          | none => simp [eq_comm]
          | some name => simp

theorem Mapping.firstRepeated?_eq_none {seen names : List String} :
    firstRepeated? seen names = none ↔ names.Nodup ∧ ∀ name ∈ names, name ∉ seen := by
  induction names generalizing seen with
  | nil => simp [firstRepeated?]
  | cons name rest ih =>
      rw [firstRepeated?, List.nodup_cons, List.forall_mem_cons]
      by_cases repeated : name ∈ seen
      · simp [repeated]
      · rw [if_neg (by simpa using repeated), ih]
        constructor
        · rintro ⟨distinct, fresh⟩
          refine ⟨⟨fun member => fresh name member List.mem_cons_self, distinct⟩, repeated, ?_⟩
          exact fun other member inSeen => fresh other member (List.mem_cons_of_mem name inSeen)
        · rintro ⟨⟨fresh, distinct⟩, -, others⟩
          refine ⟨distinct, fun other member inSeen => ?_⟩
          rcases List.mem_cons.mp inSeen with rfl | earlier
          · exact fresh member
          · exact others other member earlier

theorem Mapping.of_keyOf_eq_ok {inference : KeyInference} {entity : String}
    {fields : List Field} {key : Field} (keyed : keyOf inference entity fields = .ok key) :
    key ∈ fields ∧ ∃ scalar, key.type = .scalar scalar := by
  have accepts : ∀ {chosen : Field}, chosen ∈ fields →
      (if chosen.type.scalar?.isSome then Except.ok chosen
        else .error (MappingFault.associationAsPrimaryKey chosen.name entity)) = .ok key →
      key ∈ fields ∧ ∃ scalar, key.type = .scalar scalar := by
    intro chosen member accepted
    cases typed : chosen.type with
    | association association => simp [typed, FieldType.scalar?] at accepted
    | scalar scalar =>
        rw [typed, FieldType.scalar?, Option.isSome_some, if_pos rfl] at accepted
        cases accepted
        exact ⟨member, scalar, typed⟩
  unfold keyOf at keyed
  split at keyed
  · rename_i chosen declared
    exact accepts (List.mem_of_mem_filter (declared ▸ List.mem_singleton_self chosen)) keyed
  · split at keyed
    · rename_i chosen implied
      exact accepts (List.mem_of_mem_filter (implied ▸ List.mem_singleton_self chosen)) keyed
    · cases keyed
    · cases keyed
  · cases keyed

theorem Mapping.field_eq_ok {mapping : Mapping} {name : String} {found : Field} :
    mapping.field name = .ok found ↔ mapping.field? name = some found := by
  unfold Mapping.field
  cases mapping.field? name <;> simp

namespace Catalog

variable {catalog : Catalog} {entity : String} {mapping : Mapping}

theorem mapping_eq_ok :
    catalog.mapping entity = .ok mapping ↔
      ∃ definition, catalog.schema.entity? entity = some definition ∧
        Mapping.ofEntity catalog.keyInference definition = .ok mapping := by
  rw [Catalog.mapping, mapError_eq_ok, Catalog.resolve]
  cases found : catalog.schema.entity? entity with
  | none => simp
  | some definition => simp

theorem name_of_entity? {schema : Schema} {definition : Entity}
    (found : schema.entity? entity = some definition) : definition.name = entity := by
  simpa using List.find?_some found

theorem mapping_entity (resolved : catalog.mapping entity = .ok mapping) :
    mapping.entity = entity := by
  obtain ⟨definition, found, described⟩ := mapping_eq_ok.mp resolved
  obtain ⟨-, -, -, key, -, rfl⟩ := Mapping.ofEntity_eq_ok.mp described
  exact name_of_entity? found

theorem mapping_self (resolved : catalog.mapping entity = .ok mapping) :
    catalog.mapping mapping.entity = .ok mapping := by
  rw [mapping_entity resolved, resolved]

theorem scalar_key (mapped : catalog.mapping entity = .ok mapping) :
    ∃ scalar, mapping.key.type = .scalar scalar := by
  obtain ⟨definition, found, described⟩ := mapping_eq_ok.mp mapped
  obtain ⟨-, -, -, key, keyed, rfl⟩ := Mapping.ofEntity_eq_ok.mp described
  exact (Mapping.of_keyOf_eq_ok keyed).2

theorem key_mem_columnFields (mapped : catalog.mapping entity = .ok mapping) :
    mapping.key ∈ mapping.columnFields := by
  obtain ⟨scalar, typed⟩ := scalar_key mapped
  obtain ⟨definition, found, described⟩ := mapping_eq_ok.mp mapped
  obtain ⟨-, -, -, key, keyed, rfl⟩ := Mapping.ofEntity_eq_ok.mp described
  refine List.mem_filter.mpr ⟨(Mapping.of_keyOf_eq_ok keyed).1, ?_⟩
  dsimp only at typed
  rw [Field.hasColumn, typed]

theorem nodup_fieldNames (mapped : catalog.mapping entity = .ok mapping) :
    (mapping.fields.map Field.name).Nodup := by
  obtain ⟨definition, found, described⟩ := mapping_eq_ok.mp mapped
  obtain ⟨-, -, distinct, key, -, rfl⟩ := Mapping.ofEntity_eq_ok.mp described
  exact (Mapping.firstRepeated?_eq_none.mp distinct).1

theorem field?_of_mem (mapped : catalog.mapping entity = .ok mapping) {field : Field}
    (member : field ∈ mapping.fields) : mapping.field? field.name = some field :=
  find?_of_nodup_names (nodup_fieldNames mapped) member

theorem storageType_of_mem (mapped : catalog.mapping entity = .ok mapping) {field : Field}
    (member : field ∈ mapping.columnFields) {scalar : ScalarType}
    (typed : field.type = .scalar scalar) :
    catalog.storageType mapping.entity field.name = .ok (catalog.dialect.storageType scalar) := by
  rw [mapping_entity mapped]
  refine bind_eq_ok.mpr ⟨mapping, mapped, ?_⟩
  have found := field?_of_mem mapped (List.mem_of_mem_filter member)
  refine bind_eq_ok.mpr ⟨field, Mapping.field_eq_ok.mpr found, ?_⟩
  rw [typed]

theorem criterionColumn_eq_ok {field column : String} {type : StorageType} :
    catalog.criterionColumn mapping field = .ok (column, type) ↔
      ∃ found, mapping.field? field = some found ∧ found.hasColumn = true ∧
        catalog.storageType mapping.entity field = .ok type ∧ found.columnName = column := by
  unfold criterionColumn
  cases named : mapping.field? field with
  | none => simp
  | some found =>
      cases stored : found.hasColumn with
      | false => simp [stored]
      | true => simp [stored, bind_eq_ok]

theorem exists_keyValue {item : Instance} (mapped : catalog.mapping item.entity = .ok mapping) :
    ∃ key, catalog.keyValue item = .ok key :=
  exists_bind mapped ⟨_, rfl⟩

end Catalog

/-! ## Relationships -/

theorem Relationship.cardinality_eq_manyToMany {relationship : Relationship} :
    relationship.cardinality = .manyToMany ↔
      ∃ table, relationship.kind = .manyToMany table := by
  unfold cardinality
  cases relationship.kind <;> simp

theorem Relationship.cardinality_eq_oneToOne {relationship : Relationship} :
    relationship.cardinality = .oneToOne ↔
      ∃ column, relationship.kind = .oneToOne column := by
  unfold cardinality
  cases relationship.kind <;> simp

theorem Relationship.cardinality_eq_oneToMany {relationship : Relationship} :
    relationship.cardinality = .oneToMany ↔
      ∃ column, relationship.kind = .oneToMany column := by
  unfold cardinality
  cases relationship.kind <;> simp

theorem Relationship.joinTable?_eq_some {relationship : Relationship} {table : String} :
    relationship.joinTable? = some table ↔ relationship.kind = .manyToMany table := by
  unfold joinTable?
  cases relationship.kind <;> simp

theorem Relationship.joinTable_eq_ok {relationship : Relationship} {table : String} :
    relationship.joinTable = .ok table ↔ relationship.kind = .manyToMany table := by
  unfold joinTable
  cases relationship.kind <;> simp

theorem Relationship.joinTable_iff {relationship : Relationship} {table : String} :
    relationship.joinTable = .ok table ↔ relationship.joinTable? = some table :=
  joinTable_eq_ok.trans joinTable?_eq_some.symm

theorem Relationship.collectionColumn_eq_ok {relationship : Relationship} {column : String} :
    relationship.collectionColumn = .ok column ↔ relationship.kind = .oneToMany column := by
  unfold collectionColumn
  cases relationship.kind <;> simp

theorem Relationship.requireCardinality_eq_ok {relationship : Relationship}
    {expected : Cardinality} :
    relationship.requireCardinality expected = .ok () ↔ relationship.cardinality = expected := by
  simp [requireCardinality]

theorem Relationship.requireFirst_eq_ok {relationship : Relationship} {entity : String} :
    relationship.requireFirst entity = .ok () ↔ relationship.first.entity = entity := by
  simp [requireFirst]

/-- Of the fields that hold other entities, only those of one-to-one associations have a column. -/
theorem Schema.Field.hasColumn_iff_oneToOne {field : Field} {association : Association}
    (associated : field.type.association? = some association) :
    field.hasColumn = true ↔ ∃ column, association.link = .oneToOne column := by
  unfold hasColumn
  cases typed : field.type with
  | scalar scalar =>
      rw [typed] at associated
      cases associated
  | association declared =>
      rw [typed] at associated
      cases associated
      change association.hasLocalColumn = true ↔ _
      unfold Association.hasLocalColumn
      cases association.link <;> simp

/-- The relationships that associations declare, one case for each place to keep links in. -/
theorem Relationship.ofAssociation_cases {owner target : Mapping} {field : Field}
    {association : Association} {relationship : Relationship}
    (declared : ofAssociation owner field association target = .ok relationship) :
    (∃ column, association.link = .oneToOne column ∧ relationship = {
        name := association.name
        kind := .oneToOne column
        first := .ofMapping owner field.name field.columnName
        second := .ofMapping target target.key.name target.keyColumn }) ∨
      (∃ column foreignKey, association.link = .oneToMany column ∧
        target.fieldForColumn? column = some foreignKey ∧ relationship = {
        name := association.name
        kind := .oneToMany column
        first := .ofMapping owner field.name owner.keyColumn
        second := .ofMapping target foreignKey.name column }) ∨
      ∃ table keyField foreignField keyColumn foreignColumn,
        association.link = .manyToMany table keyField foreignField ∧
        sideColumn owner association.name keyField = .ok keyColumn ∧
        sideColumn target association.name foreignField = .ok foreignColumn ∧
        relationship.first.joinColumn ≠ relationship.second.joinColumn ∧
        relationship = {
          name := association.name
          kind := .manyToMany table
          first := .ofMapping owner keyField keyColumn
          second := .ofMapping target foreignField foreignColumn } := by
  unfold ofAssociation at declared
  cases link : association.link with
  | oneToOne column =>
      simp only [link] at declared
      cases declared
      exact .inl ⟨column, rfl, rfl⟩
  | oneToMany column =>
      simp only [link] at declared
      cases named : target.fieldForColumn? column with
      | none => simp [named] at declared
      | some foreignKey =>
          simp only [named] at declared
          cases declared
          exact .inr (.inl ⟨column, foreignKey, rfl, named, rfl⟩)
  | manyToMany table keyField foreignField =>
      simp only [link] at declared
      obtain ⟨keyColumn, keySided, continuation⟩ := bind_eq_ok.mp declared
      obtain ⟨foreignColumn, foreignSided, accepted⟩ := bind_eq_ok.mp continuation
      split at accepted
      · cases accepted
      · rename_i different
        cases accepted
        exact .inr (.inr ⟨table, keyField, foreignField, keyColumn, foreignColumn, rfl,
          keySided, foreignSided, different, rfl⟩)

/-- The declaring entity of a relationship is the first side and the target the second one.
Where links are kept in a join table, each side has a column of its own in it. -/
theorem Relationship.of_ofAssociation_eq_ok {owner target : Mapping} {field : Field}
    {association : Association} {relationship : Relationship}
    (declared : ofAssociation owner field association target = .ok relationship) :
    relationship.first.entity = owner.entity ∧ relationship.second.entity = target.entity ∧
      (relationship.cardinality = .manyToMany →
        relationship.first.joinColumn ≠ relationship.second.joinColumn) := by
  rcases ofAssociation_cases declared with
    ⟨column, -, rfl⟩ | ⟨column, foreignKey, -, -, rfl⟩ |
    ⟨_, _, _, _, _, -, -, -, different, rfl⟩
  · exact ⟨rfl, rfl, nofun⟩
  · exact ⟨rfl, rfl, nofun⟩
  · exact ⟨rfl, rfl, fun _ => different⟩

theorem Relationship.of_sideColumn_eq_ok {mapping : Mapping} {name field column : String}
    (sided : sideColumn mapping name field = .ok column) :
    ∃ found ∈ mapping.columnFields, found.name = field ∧ found.columnName = column := by
  unfold sideColumn at sided
  cases isField : mapping.field? field with
  | none => simp [isField] at sided
  | some found =>
      simp only [isField] at sided
      split at sided
      · rename_i hasColumn
        cases sided
        refine ⟨found, List.mem_filter.mpr ⟨List.mem_of_find?_eq_some isField, hasColumn⟩, ?_, rfl⟩
        simpa using List.find?_some isField
      · cases sided

/-- Both sides of a relationship are stored fields. That of the target has a column, and so has
that of the declaring entity where links are kept in a join table. -/
theorem Relationship.fields_of_ofAssociation {owner target : Mapping} {field : Field}
    {association : Association} {relationship : Relationship} (owned : field ∈ owner.fields)
    (keyed : target.key ∈ target.columnFields)
    (declared : ofAssociation owner field association target = .ok relationship) :
    (∃ own ∈ owner.fields, own.name = relationship.first.field ∧
        (relationship.cardinality = .manyToMany → own.hasColumn = true)) ∧
      ∃ other ∈ target.columnFields, other.name = relationship.second.field := by
  rcases ofAssociation_cases declared with ⟨column, -, rfl⟩ |
    ⟨column, foreignKey, -, named, rfl⟩ | ⟨_, _, _, _, _, -, keySided, foreignSided, -, rfl⟩
  · exact ⟨⟨field, owned, rfl, nofun⟩, target.key, keyed, rfl⟩
  · have member := List.mem_of_mem_filter (List.mem_of_getLast? named)
    exact ⟨⟨field, owned, rfl, nofun⟩, foreignKey, member, rfl⟩
  · obtain ⟨own, ownMember, ownNamed, -⟩ := of_sideColumn_eq_ok keySided
    obtain ⟨other, otherMember, otherNamed, -⟩ := of_sideColumn_eq_ok foreignSided
    obtain ⟨stored, hasColumn⟩ := List.mem_filter.mp ownMember
    exact ⟨⟨own, stored, ownNamed, fun _ => hasColumn⟩, other, otherMember, otherNamed⟩

namespace Catalog

variable {catalog : Catalog} {entity field : String} {relationship : Relationship}

/-- A relationship comes from an association between two entities with mappings. -/
theorem of_relationship_eq_ok
    (resolved : catalog.relationship entity field = .ok relationship) :
    ∃ owner found association target, catalog.mapping entity = .ok owner ∧
      owner.field? field = some found ∧ found.type.association? = some association ∧
      catalog.mapping association.target = .ok target ∧
      Relationship.ofAssociation owner found association target = .ok relationship := by
  obtain ⟨owner, owned, continuation⟩ := bind_eq_ok.mp resolved
  obtain ⟨found, isField, continuation⟩ := bind_eq_ok.mp continuation
  cases associated : found.type.association? with
  | none => simp [associated] at continuation
  | some association =>
      simp only [associated] at continuation
      cases targeted : catalog.resolve association.target with
      | error cause => simp [targeted] at continuation
      | ok target =>
          simp only [targeted] at continuation
          have targetMapped : catalog.mapping association.target = .ok target := by
            rw [Catalog.mapping, targeted]
            rfl
          exact ⟨owner, found, association, target, owned, Mapping.field_eq_ok.mp isField,
            associated, targetMapped, mapError_eq_ok.mp continuation⟩

theorem first_relationship (resolved : catalog.relationship entity field = .ok relationship) :
    relationship.first.entity = entity := by
  obtain ⟨owner, found, association, target, owned, -, -, -, declared⟩ :=
    of_relationship_eq_ok resolved
  rw [(Relationship.of_ofAssociation_eq_ok declared).1, mapping_entity owned]

theorem mapping_second (resolved : catalog.relationship entity field = .ok relationship) :
    ∃ target, catalog.mapping relationship.second.entity = .ok target := by
  obtain ⟨owner, found, association, target, -, -, -, targeted, declared⟩ :=
    of_relationship_eq_ok resolved
  refine ⟨target, ?_⟩
  rw [(Relationship.of_ofAssociation_eq_ok declared).2.1, mapping_entity targeted, targeted]

theorem fields_relationship
    (resolved : catalog.relationship entity field = .ok relationship) :
    ∃ owner target, catalog.mapping relationship.first.entity = .ok owner ∧
      catalog.mapping relationship.second.entity = .ok target ∧
      (∃ own ∈ owner.fields, own.name = relationship.first.field ∧
        (relationship.cardinality = .manyToMany → own.hasColumn = true)) ∧
      ∃ other ∈ target.columnFields, other.name = relationship.second.field := by
  obtain ⟨owner, found, association, target, owned, isField, -, targeted, declared⟩ :=
    of_relationship_eq_ok resolved
  obtain ⟨first, second, -⟩ := Relationship.of_ofAssociation_eq_ok declared
  rw [first, second, mapping_entity owned, mapping_entity targeted]
  exact ⟨owner, target, owned, targeted, Relationship.fields_of_ofAssociation
    (List.mem_of_find?_eq_some isField) (key_mem_columnFields targeted) declared⟩

theorem joinColumn_ne (resolved : catalog.relationship entity field = .ok relationship)
    (linked : relationship.cardinality = .manyToMany) :
    relationship.first.joinColumn ≠ relationship.second.joinColumn := by
  obtain ⟨owner, found, association, target, -, -, -, -, declared⟩ :=
    of_relationship_eq_ok resolved
  exact (Relationship.of_ofAssociation_eq_ok declared).2.2 linked

end Catalog

end Persistence
