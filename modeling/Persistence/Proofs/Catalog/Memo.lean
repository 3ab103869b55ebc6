import Persistence.Catalog.Memo
import Persistence.Proofs.Catalog.Resolution

/-!
# Answers from memory

What a catalog has resolved before never shows in an answer: a memo holds only what the schema
itself says, a call that fails leaves such a memo too, and from any such memo the answers are
those of a catalog that has resolved nothing yet. What has been resolved once stays held.
-/

set_option autoImplicit false

namespace Persistence

open Schema

/-! ## Sound memos -/

/-- Everything that is held before is held after. -/
structure Memo.Extends (before after : Memo) : Prop where
  mappings : ∀ entity mapping, before.mapping? entity = some mapping →
    after.mapping? entity = some mapping
  relationships : ∀ entity field relationship,
    before.relationship? entity field = some relationship →
      after.relationship? entity field = some relationship

/-- Each entry is what its key resolves to. -/
structure Memo.IsSound (catalog : Catalog) (memo : Memo) : Prop where
  mappings : ∀ entity mapping, (entity, mapping) ∈ memo.mappings →
    catalog.mapping entity = .ok mapping
  relationships : ∀ entity field relationship,
    ((entity, field), relationship) ∈ memo.relationships →
      catalog.relationship entity field = .ok relationship

namespace Memo

variable {κ α : Type} [BEq κ] {catalog : Catalog} {memo : Memo}
  {entity field : String} {mapping : Mapping} {relationship : Relationship}

theorem mem_of_lookup [LawfulBEq κ] {key : κ} {value : α} {entries : List (κ × α)}
    (found : entries.lookup key = some value) : (key, value) ∈ entries := by
  obtain ⟨before, after, rfl, -⟩ := List.lookup_eq_some_iff.mp found
  exact List.mem_append_right before List.mem_cons_self

theorem mem_insertNew {key other : κ} {value held : α} {entries : List (κ × α)}
    (member : (other, held) ∈ insertNew key value entries) :
    (other = key ∧ held = value) ∨ (other, held) ∈ entries := by
  unfold insertNew at member
  split at member
  · exact .inr member
  · rcases List.mem_cons.mp member with isNew | earlier
    · cases isNew
      exact .inl ⟨rfl, rfl⟩
    · exact .inr earlier

theorem lookup_insertNew [LawfulBEq κ] (key : κ) (value : α) (entries : List (κ × α)) :
    (insertNew key value entries).lookup key = some ((entries.lookup key).getD value) := by
  unfold insertNew
  split
  case isTrue held =>
    obtain ⟨found, isFound⟩ := Option.isSome_iff_exists.mp held
    rw [isFound, Option.getD_some]
  case isFalse missing =>
    rw [List.lookup_cons_self, Option.not_isSome_iff_eq_none.mp missing, Option.getD_none]

theorem lookup_insertNew_of_eq_some [LawfulBEq κ] {key other : κ} {value held : α}
    {entries : List (κ × α)} (found : entries.lookup other = some held) :
    (insertNew key value entries).lookup other = some held := by
  unfold insertNew
  split
  case isTrue => exact found
  case isFalse missing =>
    have different : other ≠ key := by
      rintro rfl
      rw [found] at missing
      exact missing rfl
    rw [List.lookup_cons, beq_false_of_ne different, found]

theorem Extends.refl (memo : Memo) : memo.Extends memo where
  mappings _ _ held := held
  relationships _ _ _ held := held

theorem Extends.trans {before middle after : Memo} (first : before.Extends middle)
    (second : middle.Extends after) : before.Extends after where
  mappings entity mapping held :=
    second.mappings entity mapping (first.mappings entity mapping held)
  relationships entity field relationship held :=
    second.relationships entity field relationship
      (first.relationships entity field relationship held)

theorem extends_addMapping (entity : String) (mapping : Mapping) (memo : Memo) :
    memo.Extends (memo.addMapping entity mapping) where
  mappings _ _ held := lookup_insertNew_of_eq_some held
  relationships _ _ _ held := held

theorem extends_addRelationship (entity field : String) (relationship : Relationship)
    (memo : Memo) : memo.Extends (memo.addRelationship entity field relationship) where
  mappings _ _ held := held
  relationships _ _ _ held := lookup_insertNew_of_eq_some held

theorem exists_mapping?_addMapping (entity : String) (mapping : Mapping) (memo : Memo) :
    ∃ held, (memo.addMapping entity mapping).mapping? entity = some held :=
  ⟨_, lookup_insertNew entity mapping memo.mappings⟩

theorem exists_relationship?_addRelationship (entity field : String)
    (relationship : Relationship) (memo : Memo) :
    ∃ held, (memo.addRelationship entity field relationship).relationship? entity field =
      some held :=
  ⟨_, lookup_insertNew (entity, field) relationship memo.relationships⟩

theorem isSound_empty (catalog : Catalog) : IsSound catalog {} where
  mappings _ _ member := absurd member List.not_mem_nil
  relationships _ _ _ member := absurd member List.not_mem_nil

theorem IsSound.of_mapping? (sound : memo.IsSound catalog)
    (held : memo.mapping? entity = some mapping) : catalog.mapping entity = .ok mapping :=
  sound.mappings entity mapping (mem_of_lookup held)

theorem IsSound.of_relationship? (sound : memo.IsSound catalog)
    (held : memo.relationship? entity field = some relationship) :
    catalog.relationship entity field = .ok relationship :=
  sound.relationships entity field relationship (mem_of_lookup held)

theorem IsSound.addMapping (sound : memo.IsSound catalog)
    (mapped : catalog.mapping entity = .ok mapping) :
    (memo.addMapping entity mapping).IsSound catalog where
  mappings other held member := by
    rcases mem_insertNew member with ⟨rfl, rfl⟩ | earlier
    · exact mapped
    · exact sound.mappings other held earlier
  relationships := sound.relationships

theorem IsSound.addRelationship (sound : memo.IsSound catalog)
    (resolved : catalog.relationship entity field = .ok relationship) :
    (memo.addRelationship entity field relationship).IsSound catalog where
  mappings := sound.mappings
  relationships other otherField held member := by
    rcases mem_insertNew member with ⟨same, rfl⟩ | earlier
    · cases same
      exact resolved
    · exact sound.relationships other otherField held earlier

end Memo

/-! ## What has been resolved is not resolved again -/

section Again

variable {ε α : Type} {memo after : Memo}

theorem MemoStep.held?_of_remember {held? : Memo → Option α} {hold : α → Memo → Memo}
    {step : MemoStep ε α} (holds : ∀ value memo, ∃ held, held? (hold value memo) = some held)
    {value : α} (recalled : remember held? hold step memo = (.ok value, after)) :
    held? after = some value := by
  unfold remember at recalled
  split at recalled
  case h_1 found held =>
    cases recalled
    exact held
  case h_2 missing =>
    split at recalled
    case h_1 fault ended _ => cases recalled
    case h_2 resolved middle _ =>
      cases recalled
      obtain ⟨held, isHeld⟩ := holds resolved middle
      rw [isHeld, Option.getD_some]

variable {catalog : Catalog} {entity field : String}

theorem Catalog.mapping?_of_recallResolved {mapping : Mapping}
    (recalled : catalog.recallResolved entity memo = (.ok mapping, after)) :
    after.mapping? entity = some mapping :=
  MemoStep.held?_of_remember (Memo.exists_mapping?_addMapping entity) recalled

theorem Catalog.relationship?_of_recallRelationship {relationship : Relationship}
    (recalled : catalog.recallRelationship entity field memo = (.ok relationship, after)) :
    after.relationship? entity field = some relationship :=
  MemoStep.held?_of_remember (Memo.exists_relationship?_addRelationship entity field) recalled

end Again

/-! ## Steps that recall -/

/-- With any sound memo at hand the step has the outcome, and leaves a sound memo that holds what
was held before. -/
def Recalls {ε α : Type} (catalog : Catalog) (step : MemoStep ε α) (outcome : Except ε α) :
    Prop :=
  ∀ memo : Memo, memo.IsSound catalog →
    ∃ after, step memo = (outcome, after) ∧ after.IsSound catalog ∧ memo.Extends after

namespace Recalls

variable {ε δ α β : Type} {catalog : Catalog}

theorem settle (outcome : Except ε α) : Recalls catalog (.settle outcome) outcome :=
  fun memo sound => ⟨memo, rfl, sound, .refl memo⟩

theorem bind {step : MemoStep ε α} {outcome : Except ε α} {next : α → MemoStep ε β}
    {continued : α → Except ε β} (first : Recalls catalog step outcome)
    (others : ∀ value, outcome = .ok value → Recalls catalog (next value) (continued value)) :
    Recalls catalog (step >>= next) (outcome >>= continued) := by
  intro memo sound
  obtain ⟨middle, ended, middleSound, grown⟩ := first memo sound
  cases outcome with
  | error fault => exact ⟨middle, bind_apply_of_error ended next, middleSound, grown⟩
  | ok value =>
      obtain ⟨after, continuedEnded, afterSound, othersGrown⟩ := others value rfl middle middleSound
      exact ⟨after, (bind_apply_of_ok ended next).trans continuedEnded, afterSound,
        grown.trans othersGrown⟩

theorem bind_of_ok {step : MemoStep ε α} {value : α} {next : α → MemoStep ε β}
    {outcome : Except ε β} (first : Recalls catalog step (.ok value))
    (others : Recalls catalog (next value) outcome) :
    Recalls catalog (step >>= next) outcome := by
  change Recalls catalog (step >>= next) (Except.ok value >>= fun _ => outcome)
  refine first.bind fun _ same => ?_
  cases same
  exact others

theorem map {step : MemoStep ε α} {outcome : Except ε α} {translate : α → β}
    (first : Recalls catalog step outcome) :
    Recalls catalog (translate <$> step) (translate <$> outcome) := by
  rw [← bind_pure_comp, ← bind_pure_comp]
  exact first.bind fun value _ => settle (.ok (translate value))

theorem adapt {step : MemoStep ε α} {outcome : Except ε α} (translate : ε → δ)
    (first : Recalls catalog step outcome) :
    Recalls catalog (step.adapt translate) (outcome.mapError translate) := by
  intro memo sound
  obtain ⟨after, ended, afterSound⟩ := first memo sound
  refine ⟨after, ?_, afterSound⟩
  change (Except.mapError translate (step memo).1, (step memo).2) = _
  rw [ended]

theorem mapM {step : α → MemoStep ε β} {computation : α → Except ε β} (values : List α)
    (each : ∀ value, Recalls catalog (step value) (computation value)) :
    Recalls catalog (values.mapM step) (values.mapM computation) := by
  induction values with
  | nil => exact settle (.ok [])
  | cons value values ih =>
      rw [List.mapM_cons, List.mapM_cons]
      refine (each value).bind fun first _ => ih.bind fun others _ => ?_
      exact settle (.ok (first :: others))

theorem remember {held? : Memo → Option α} {hold : α → Memo → Memo} {step : MemoStep ε α}
    {outcome : Except ε α} (resolves : Recalls catalog step outcome)
    (heldSound : ∀ memo found, memo.IsSound catalog → held? memo = some found →
      outcome = .ok found)
    (holdSound : ∀ memo resolved, memo.IsSound catalog → outcome = .ok resolved →
      (hold resolved memo).IsSound catalog)
    (holdExtends : ∀ (resolved : α) (memo : Memo), memo.Extends (hold resolved memo)) :
    Recalls catalog (.remember held? hold step) outcome := by
  intro memo sound
  unfold MemoStep.remember
  cases held : held? memo with
  | some found => exact ⟨memo, by rw [heldSound memo found sound held], sound, .refl memo⟩
  | none =>
      obtain ⟨after, ended, afterSound, grown⟩ := resolves memo sound
      rw [ended]
      cases outcome with
      | error fault => exact ⟨after, rfl, afterSound, grown⟩
      | ok resolved =>
          have holdingSound := holdSound after resolved afterSound rfl
          have holdingGrown := grown.trans (holdExtends resolved after)
          refine ⟨hold resolved after, ?_, holdingSound, holdingGrown⟩
          change (Except.ok ((held? (hold resolved after)).getD resolved), _) = _
          cases holding : held? (hold resolved after) with
          | none => rfl
          | some found =>
              cases heldSound _ found holdingSound holding
              rfl

end Recalls

namespace Catalog

variable (catalog : Catalog)

/-! ## Mappings and relationships -/

theorem recalls_recallResolved (entity : String) :
    Recalls catalog (catalog.recallResolved entity) (catalog.resolve entity) := by
  refine (Recalls.settle (catalog.resolve entity)).remember ?_ ?_ (Memo.extends_addMapping entity)
  · intro memo found sound held
    exact mapError_eq_ok.mp (sound.of_mapping? held)
  · intro memo resolved sound mapped
    exact sound.addMapping (mapError_eq_ok.mpr mapped)

theorem recalls_recallMapping (entity : String) :
    Recalls catalog (catalog.recallMapping entity) (catalog.mapping entity) :=
  (recalls_recallResolved catalog entity).adapt Error.mapping

theorem recalls_recallRelationship (entity field : String) :
    Recalls catalog (catalog.recallRelationship entity field)
      (catalog.relationship entity field) := by
  refine Recalls.remember ?_ ?_ ?_ (Memo.extends_addRelationship entity field)
  · refine (recalls_recallMapping catalog entity).bind fun owner _ => ?_
    refine (Recalls.settle (owner.field field)).bind fun found _ => ?_
    cases found.type.association? with
    | none => exact .settle _
    | some association =>
        have targeted := (recalls_recallResolved catalog association.target).adapt fun cause =>
          Error.mapping (.unresolvableTarget entity field cause)
        have declared := targeted.bind fun target _ => Recalls.settle
          ((Relationship.ofAssociation owner found association target).mapError Error.mapping)
        dsimp only
        cases resolved : catalog.resolve association.target <;>
          · rw [resolved] at declared
            exact declared
  · intro memo found sound held
    exact sound.of_relationship? held
  · intro memo resolved sound declared
    exact sound.addRelationship declared

/-! ## What they are resolved for -/

theorem recalls_recallStorageType (entity field : String) :
    Recalls catalog (catalog.recallStorageType entity field)
      (catalog.storageType entity field) := by
  refine (recalls_recallMapping catalog entity).bind fun mapping _ => ?_
  refine (Recalls.settle (mapping.field field)).bind fun found _ => ?_
  cases found.type with
  | scalar scalar => exact .settle _
  | association association =>
      refine (recalls_recallMapping catalog association.target).bind fun target targeted => ?_
      have again := recalls_recallMapping catalog target.entity
      rw [mapping_self targeted] at again
      have isKey := field?_of_mem targeted
        (List.mem_of_mem_filter (key_mem_columnFields targeted))
      have keyed : Recalls catalog (.settle (target.field target.key.name)) (.ok target.key) := by
        rw [Mapping.field_eq_ok.mpr isKey]
        exact .settle _
      refine again.bind_of_ok (keyed.bind_of_ok ?_)
      cases target.key.type with
      | scalar scalar => exact .settle _
      | association association => exact .settle _

theorem recalls_recallKeyValue (item : Instance) :
    Recalls catalog (catalog.recallKeyValue item) (catalog.keyValue item) :=
  (recalls_recallMapping catalog item.entity).bind fun _ _ => .settle _

theorem recalls_recallRelationshipField (entity : String) (relationship : Relationship) :
    Recalls catalog (catalog.recallRelationshipField entity relationship)
      (catalog.relationshipField entity relationship) := by
  refine (Recalls.settle (relationship.sides entity)).bind fun sides _ => ?_
  exact (recalls_recallMapping catalog entity).bind fun _ _ => .settle _

theorem recalls_recallDeclared (entity : String) :
    Recalls catalog (catalog.recallDeclared entity) (catalog.declaredRelationships entity) := by
  refine (recalls_recallMapping catalog entity).bind fun mapping _ => ?_
  exact Recalls.mapM _ fun field => recalls_recallRelationship catalog entity field.name

theorem recalls_recallManyToManyAmong (entities : List String) :
    Recalls catalog (catalog.recallManyToManyAmong entities)
      (catalog.manyToManyAmong entities) :=
  (Recalls.mapM entities (recalls_recallDeclared catalog)).bind fun _ _ => .settle _

theorem recalls_recallManyToMany (entity : String) :
    Recalls catalog (catalog.recallManyToMany entity) (catalog.manyToManyRelationships entity) :=
  (recalls_recallManyToManyAmong catalog _).bind fun _ _ => .settle _

/-! ## Calls -/

theorem recalls_recallAnswer (call : CatalogCall) :
    Recalls catalog (catalog.recallAnswer call) (catalog.answer call) := by
  cases call with
  | mapping entity => exact (recalls_recallMapping catalog entity).map
  | relationship entity field =>
      exact (recalls_recallRelationship catalog entity field).map
  | storageType entity field => exact (recalls_recallStorageType catalog entity field).map
  | declaredRelationships entity => exact (recalls_recallDeclared catalog entity).map
  | manyToManyRelationships entity => exact (recalls_recallManyToMany catalog entity).map
  | allManyToMany => exact (recalls_recallManyToManyAmong catalog _).map
  | relationshipField entity relationship =>
      exact (recalls_recallRelationshipField catalog entity relationship).map
  | keyValue item => exact (recalls_recallKeyValue catalog item).map

/-- The mapping or relationship that the call asks for is held, if there is one. -/
def HoldsAsked (memo : Memo) : CatalogCall → Prop
  | .mapping entity => ∀ mapping, catalog.mapping entity = .ok mapping →
      memo.mapping? entity = some mapping
  | .relationship entity field => ∀ relationship,
      catalog.relationship entity field = .ok relationship →
        memo.relationship? entity field = some relationship
  | _ => True

theorem HoldsAsked.of_extends {before after : Memo} {call : CatalogCall}
    (asked : catalog.HoldsAsked before call) (grown : before.Extends after) :
    catalog.HoldsAsked after call := by
  cases call with
  | mapping entity =>
      exact fun mapping mapped => grown.mappings entity mapping (asked mapping mapped)
  | relationship entity field =>
      exact fun relationship resolved =>
        grown.relationships entity field relationship (asked relationship resolved)
  | _ => trivial

theorem holdsAsked_recallAnswer (call : CatalogCall) {memo : Memo}
    (sound : memo.IsSound catalog) :
    catalog.HoldsAsked (catalog.recallAnswer call memo).2 call := by
  cases call with
  | mapping entity =>
      intro mapping mapped
      obtain ⟨after, ended, -⟩ := recalls_recallResolved catalog entity memo sound
      rw [mapError_eq_ok.mp mapped] at ended
      have state : (catalog.recallAnswer (.mapping entity) memo).2 =
          (catalog.recallResolved entity memo).2 := congrArg Prod.snd (map_apply _ _ memo)
      rw [state, ended]
      exact mapping?_of_recallResolved ended
  | relationship entity field =>
      intro relationship resolved
      obtain ⟨after, ended, -⟩ := recalls_recallRelationship catalog entity field memo sound
      rw [resolved] at ended
      have state : (catalog.recallAnswer (.relationship entity field) memo).2 =
          (catalog.recallRelationship entity field memo).2 := congrArg Prod.snd (map_apply _ _ memo)
      rw [state, ended]
      exact relationship?_of_recallRelationship ended
  | _ => trivial

/-- One call after the other, from any sound memo. -/
theorem recallAnswers_of_isSound (calls : List CatalogCall) {memo : Memo}
    (sound : memo.IsSound catalog) :
    (catalog.recallAnswers calls memo).1 = calls.map catalog.answer ∧
      (catalog.recallAnswers calls memo).2.IsSound catalog ∧
      memo.Extends (catalog.recallAnswers calls memo).2 ∧
      ∀ call ∈ calls, catalog.HoldsAsked (catalog.recallAnswers calls memo).2 call := by
  induction calls generalizing memo with
  | nil => exact ⟨rfl, sound, .refl memo, List.forall_mem_nil _⟩
  | cons call rest ih =>
      have asked := holdsAsked_recallAnswer catalog call sound
      obtain ⟨after, answered, afterSound, grown⟩ := recalls_recallAnswer catalog call memo sound
      obtain ⟨othersAnswered, lastSound, othersGrown, othersAsked⟩ := ih afterSound
      rw [answered] at asked
      rw [recallAnswers, answered]
      exact ⟨congrArg (catalog.answer call :: ·) othersAnswered, lastSound,
        grown.trans othersGrown, List.forall_mem_cons.mpr
          ⟨asked.of_extends catalog othersGrown, othersAsked⟩⟩

/-- Whatever a catalog has been asked before, it answers to a call what it would answer to that
call alone, which is what the schema says. All that it holds in the end is what the schema says,
and what it has been asked for is among it. -/
theorem recallAnswers_empty (calls : List CatalogCall) :
    (catalog.recallAnswers calls {}).1 =
        calls.map (fun call => (catalog.recallAnswer call {}).1) ∧
      (catalog.recallAnswers calls {}).1 = calls.map catalog.answer ∧
      (catalog.recallAnswers calls {}).2.IsSound catalog ∧
      ∀ call ∈ calls, catalog.HoldsAsked (catalog.recallAnswers calls {}).2 call := by
  have fresh := Memo.isSound_empty catalog
  obtain ⟨answered, sound, -, asked⟩ := recallAnswers_of_isSound catalog calls fresh
  refine ⟨?_, answered, sound, asked⟩
  rw [answered]
  refine List.map_congr_left fun call _ => ?_
  obtain ⟨after, ended, -⟩ := recalls_recallAnswer catalog call {} fresh
  rw [ended]

end Catalog

end Persistence
