import Persistence.Proofs.Catalog.Resolution

/-!
# Mappable entities

Which entities have a mapping, said of their declaration alone: stored ones whose stored fields
have names of their own, one of them the only candidate for the primary key and a scalar. The
mapping then finds each stored field by its name, knows the candidate as the key, and is the same
whatever transient fields are declared beside.
-/

set_option autoImplicit false

namespace Persistence

open Schema

/-! ## Candidates for the primary key -/

namespace Schema.Entity

/-- A stored field that is declared the primary key or, where none is, has a name that implies
it. -/
def IsKeyCandidate (inference : KeyInference) (definition : Entity) (field : Field) : Prop :=
  field ∈ definition.persistentFields ∧
    (field.isPrimaryKey = true ∨
      (∀ other ∈ definition.persistentFields, other.isPrimaryKey = false) ∧
        inference.accepts field.name = true)

structure IsMappable (inference : KeyInference) (definition : Entity) : Prop where
  stored : definition.isTransient = false
  distinct : (definition.persistentFields.map Field.name).Nodup
  keyed : ∃! field, definition.IsKeyCandidate inference field
  scalar : ∀ field, definition.IsKeyCandidate inference field →
    ∃ type, field.type = .scalar type

end Schema.Entity

namespace Mapping

variable {inference : KeyInference} {definition : Entity} {fields : List Field} {key : Field}

/-- The fields declared primary keys, or else those whose names imply it, in order. -/
def keyCandidates (inference : KeyInference) (fields : List Field) : List Field :=
  match fields.filter Field.isPrimaryKey with
  | [] => fields.filter fun field => inference.accepts field.name
  | declared => declared

theorem mem_keyCandidates {field : Field} :
    field ∈ keyCandidates inference definition.persistentFields ↔
      definition.IsKeyCandidate inference field := by
  unfold keyCandidates Entity.IsKeyCandidate
  cases declared : definition.persistentFields.filter Field.isPrimaryKey with
  | nil =>
      have undeclared : ∀ other ∈ definition.persistentFields, other.isPrimaryKey = false := by
        simpa using declared
      constructor
      · intro candidate
        obtain ⟨member, accepted⟩ := List.mem_filter.mp candidate
        exact ⟨member, .inr ⟨undeclared, accepted⟩⟩
      · rintro ⟨member, isKey | ⟨-, accepted⟩⟩
        · rw [undeclared field member] at isKey
          cases isKey
        · exact List.mem_filter.mpr ⟨member, accepted⟩
  | cons first rest =>
      dsimp only
      rw [← declared, List.mem_filter]
      constructor
      · rintro ⟨member, isKey⟩
        exact ⟨member, .inl isKey⟩
      · rintro ⟨member, isKey | ⟨undeclared, -⟩⟩
        · exact ⟨member, isKey⟩
        · obtain ⟨firstMember, firstIsKey⟩ :=
            List.mem_filter.mp (declared ▸ List.mem_cons_self : first ∈ _)
          rw [undeclared first firstMember] at firstIsKey
          cases firstIsKey

theorem nodup_keyCandidates (distinct : fields.Nodup) :
    (keyCandidates inference fields).Nodup := by
  unfold keyCandidates
  split
  · exact distinct.sublist List.filter_sublist
  · exact distinct.sublist List.filter_sublist

theorem keyOf_eq_ok {entity : String} :
    keyOf inference entity fields = .ok key ↔
      keyCandidates inference fields = [key] ∧ key.type.scalar?.isSome = true := by
  have accepted {chosen : Field} :
      (if chosen.type.scalar?.isSome then Except.ok chosen
        else .error (MappingFault.associationAsPrimaryKey chosen.name entity)) = .ok key ↔
      [chosen] = [key] ∧ key.type.scalar?.isSome = true := by
    rw [List.singleton_inj]
    split
    · rename_i scalar
      rw [Except.ok.injEq]
      exact ⟨fun same => ⟨same, same ▸ scalar⟩, And.left⟩
    · rename_i associated
      exact ⟨nofun, fun ⟨same, scalar⟩ => absurd (same ▸ scalar) associated⟩
  unfold keyOf keyCandidates
  generalize (fields.filter fun field => inference.accepts field.name) = implied
  rcases fields.filter Field.isPrimaryKey with _ | ⟨declared, _ | ⟨second, rest⟩⟩
  · rcases implied with _ | ⟨chosen, _ | ⟨second, rest⟩⟩
    · simp [bind, Except.bind]
    · exact accepted
    · simp [bind, Except.bind]
  · exact accepted
  · simp [bind, Except.bind]

/-- An entity has a mapping exactly if it is mappable, and its key is then the candidate. -/
theorem ofEntity_eq_ok_iff {mapping : Mapping} :
    Mapping.ofEntity inference definition = .ok mapping ↔
      definition.IsMappable inference ∧ ∃ key, definition.IsKeyCandidate inference key ∧
        mapping = {
          entity := definition.name
          table := definition.tableName
          fields := definition.persistentFields
          key := key
          isLazy := definition.isLazy
          isCascading := definition.isCascading } := by
  have candidates (distinct : (definition.persistentFields.map Field.name).Nodup) (key : Field) :
      keyCandidates inference definition.persistentFields = [key] ↔
        definition.IsKeyCandidate inference key ∧
          ∀ other, definition.IsKeyCandidate inference other → other = key := by
    rw [eq_singleton_iff_of_nodup (nodup_keyCandidates (distinct.of_map Field.name)),
      mem_keyCandidates]
    simp only [mem_keyCandidates]
  rw [Mapping.ofEntity_eq_ok]
  constructor
  · rintro ⟨stored, -, unrepeated, key, keyed, rfl⟩
    have distinct := (firstRepeated?_eq_none.mp unrepeated).1
    obtain ⟨single, scalar⟩ := keyOf_eq_ok.mp keyed
    obtain ⟨candidate, unique⟩ := (candidates distinct key).mp single
    refine ⟨⟨stored, distinct, ⟨key, candidate, unique⟩, ?_⟩, key, candidate, rfl⟩
    intro other isCandidate
    rw [unique other isCandidate]
    exact (of_keyOf_eq_ok keyed).2
  · rintro ⟨mappable, key, candidate, written⟩
    have unique : ∀ other, definition.IsKeyCandidate inference other → other = key :=
      fun other isCandidate => mappable.keyed.unique isCandidate candidate
    obtain ⟨type, typed⟩ := mappable.scalar key candidate
    refine ⟨mappable.stored, List.ne_nil_of_mem candidate.1,
      firstRepeated?_eq_none.mpr ⟨mappable.distinct, fun _ _ => List.not_mem_nil⟩, key, ?_, written⟩
    refine keyOf_eq_ok.mpr ⟨(candidates mappable.distinct _).mpr ⟨candidate, unique⟩, ?_⟩
    rw [typed]
    rfl

/-! ## What a mapping knows of its fields -/

theorem field?_eq_some_iff {mapping : Mapping} (distinct : (mapping.fields.map Field.name).Nodup)
    {name : String} {field : Field} :
    mapping.field? name = some field ↔ field ∈ mapping.fields ∧ field.name = name := by
  constructor
  · intro found
    exact ⟨List.mem_of_find?_eq_some found, by simpa using List.find?_some found⟩
  · rintro ⟨member, rfl⟩
    exact find?_of_nodup_names distinct member

theorem field?_eq_none_iff {mapping : Mapping} {name : String} :
    mapping.field? name = none ↔ ∀ field ∈ mapping.fields, field.name ≠ name := by
  simp [field?]

/-- The place of a field is the one at which its name is found first. -/
theorem findIdx?_name {fields : List Field} (distinct : (fields.map Field.name).Nodup)
    {place : Nat} {field : Field} (atPlace : fields[place]? = some field) (name : String) :
    fields.findIdx? (fun other => other.name == name) = some place ↔ name = field.name := by
  obtain ⟨bound, isField⟩ := List.getElem?_eq_some_iff.mp atPlace
  rw [List.findIdx?_eq_some_iff_getElem]
  constructor
  · rintro ⟨_, named, -⟩
    rw [isField, beq_iff_eq] at named
    exact named.symm
  · rintro rfl
    refine ⟨bound, by rw [isField, beq_self_eq_true], fun earlier before named => ?_⟩
    rw [beq_iff_eq] at named
    have same : fields[earlier] = fields[place] :=
      List.inj_on_of_nodup_map distinct (List.getElem_mem _) (List.getElem_mem _)
        (named.trans (congrArg Field.name isField.symm))
    have := (distinct.of_map Field.name).getElem_inj_iff.mp same
    omega

/-- The mapping knows the key of the entity and finds its stored fields, by their names and the
key also by its place. -/
structure KnowsFields (inference : KeyInference) (definition : Entity) (mapping : Mapping) :
    Prop where
  fields : mapping.fields = definition.persistentFields
  key : definition.IsKeyCandidate inference mapping.key
  isKey : ∀ name, mapping.isKey name = true ↔
    ∃ field, definition.IsKeyCandidate inference field ∧ field.name = name
  isKeyOnce : ∃! name, mapping.isKey name = true
  found : ∀ name field, mapping.field? name = some field ↔
    field ∈ definition.persistentFields ∧ field.name = name
  absent : ∀ name, mapping.field? name = none ↔
    ∀ field ∈ definition.persistentFields, field.name ≠ name
  place : ∃ place, mapping.fields[place]? = some mapping.key ∧
    ∀ name, mapping.isKey name = true ↔
      mapping.fields.findIdx? (fun field => field.name == name) = some place

theorem knowsFields_of_ofEntity {mapping : Mapping}
    (described : Mapping.ofEntity inference definition = .ok mapping) :
    mapping.KnowsFields inference definition := by
  obtain ⟨mappable, key, candidate, rfl⟩ := ofEntity_eq_ok_iff.mp described
  obtain ⟨place, atPlace⟩ := List.getElem?_of_mem candidate.1
  constructor
  case fields => rfl
  case key => exact candidate
  case isKey =>
    intro name
    rw [isKey, beq_iff_eq]
    constructor
    · rintro rfl
      exact ⟨key, candidate, rfl⟩
    · rintro ⟨field, isCandidate, rfl⟩
      rw [mappable.keyed.unique isCandidate candidate]
  case isKeyOnce => exact ⟨key.name, beq_self_eq_true key.name, fun name => beq_iff_eq.mp⟩
  case found => exact fun name field => field?_eq_some_iff mappable.distinct
  case absent => exact fun name => field?_eq_none_iff
  case place =>
    refine ⟨place, atPlace, fun name => ?_⟩
    rw [isKey, beq_iff_eq, findIdx?_name mappable.distinct atPlace]

/-- Transient fields have no part in the mapping of an entity or in what keeps it from one. -/
theorem ofEntity_of_persistentFields {fields : List Field}
    (same : fields.filter Field.isPersistent = definition.persistentFields) :
    Mapping.ofEntity inference { definition with fields } =
      Mapping.ofEntity inference definition := by
  have stored : Entity.persistentFields { definition with fields } =
      definition.persistentFields := same
  unfold Mapping.ofEntity
  rw [stored]
  rfl

/-- An entity has a mapping exactly if it is mappable. -/
theorem exists_mapping_iff (inference : KeyInference) (definition : Entity) :
    ((∃ mapping, Mapping.ofEntity inference definition = .ok mapping) ↔
        definition.IsMappable inference) ∧
      (∀ mapping, Mapping.ofEntity inference definition = .ok mapping →
        mapping.KnowsFields inference definition) ∧
      ∀ fields, fields.filter Field.isPersistent = definition.persistentFields →
        Mapping.ofEntity inference { definition with fields } =
          Mapping.ofEntity inference definition := by
  refine ⟨⟨?_, ?_⟩, fun _ => knowsFields_of_ofEntity, fun _ => ofEntity_of_persistentFields⟩
  · rintro ⟨mapping, described⟩
    exact (ofEntity_eq_ok_iff.mp described).1
  · intro mappable
    obtain ⟨key, candidate, -⟩ := mappable.keyed
    exact ⟨_, ofEntity_eq_ok_iff.mpr ⟨mappable, key, candidate, rfl⟩⟩

/-! ## An account -/

/-- Accounts are known by their number in capitals. The transient field of the same name is
no second candidate. -/
def account : Entity where
  name := "Account"
  fields := [
    { name := "id", type := .scalar .string, isPrimaryKey := true, isTransient := true },
    { name := "owner", type := .scalar .string },
    { name := "ID", type := .scalar .int64 },
    { name := "owner", type := .scalar .int64, isTransient := true }]

theorem exists_mapping_iff_account :
    ∃ mapping, Mapping.ofEntity {} account = .ok mapping ∧ account.IsMappable {} ∧
      mapping.KnowsFields {} account ∧
      (account.fields.drop 1).filter Field.isPersistent = account.persistentFields ∧
      Mapping.ofEntity {} { account with fields := account.fields.drop 1 } = .ok mapping := by
  have others : (account.fields.drop 1).filter Field.isPersistent = account.persistentFields := by
    decide
  obtain ⟨mappable, knows, stored⟩ := exists_mapping_iff {} account
  exact ⟨_, rfl, mappable.mp ⟨_, rfl⟩, knows _ rfl, others, stored _ others⟩

end Mapping

end Persistence
