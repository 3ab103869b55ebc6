import Persistence.Proofs.Catalog.KeyTypes
import Persistence.Proofs.Catalog.Memo

/-!
# Storage types by way of other fields

A field that holds other entities has the storage type of their primary key, whatever that may be,
and so one call for a storage type may lead to another. Entities may refer to each other in
circles; what ends the calls is that the key of a mapping is a scalar. The second call is the last.
-/

set_option autoImplicit false

namespace Persistence

open Schema MemoStep

/-! ## Calls -/

/-- What a call for a storage type comes to: the type, or another field that has the same type. -/
inductive TypeReply where
  | type (type : StorageType)
  | sameAs (entity field : String)

namespace Catalog

def typeReply (catalog : Catalog) (entity field : String) : Except Error TypeReply := do
  let mapping ← catalog.mapping entity
  let found ← mapping.field field
  match found.type with
  | .scalar scalar => .ok (.type (catalog.dialect.storageType scalar))
  | .association association => do
      let target ← catalog.mapping association.target
      .ok (.sameAs target.entity target.key.name)

/-- The call with what the catalog has resolved so far. -/
def recallTypeReply (catalog : Catalog) (entity field : String) : MemoStep Error TypeReply := do
  let mapping ← catalog.recallMapping entity
  let found ← settle (mapping.field field)
  match found.type with
  | .scalar scalar => settle (.ok (.type (catalog.dialect.storageType scalar)))
  | .association association => do
      let target ← catalog.recallMapping association.target
      settle (.ok (.sameAs target.entity target.key.name))

/-- The calls for a storage type, each one for the field that the call before refers to, with the
answer of the last and what has been resolved then. Calls that never end have no derivation. -/
inductive TypeCalls (catalog : Catalog) :
    String → String → Memo → List (String × String) → Except Error StorageType × Memo → Prop
  | failed {entity field : String} {memo after : Memo} {fault : Error}
      (replied : catalog.recallTypeReply entity field memo = (.error fault, after)) :
      TypeCalls catalog entity field memo [(entity, field)] (.error fault, after)
  | answered {entity field : String} {memo after : Memo} {type : StorageType}
      (replied : catalog.recallTypeReply entity field memo = (.ok (.type type), after)) :
      TypeCalls catalog entity field memo [(entity, field)] (.ok type, after)
  | referred {entity field next key : String} {memo middle : Memo}
      {calls : List (String × String)} {ended : Except Error StorageType × Memo}
      (replied : catalog.recallTypeReply entity field memo = (.ok (.sameAs next key), middle))
      (continued : TypeCalls catalog next key middle calls ended) :
      TypeCalls catalog entity field memo ((entity, field) :: calls) ended

/-- The storage type of a field that has to be a scalar. -/
def recallScalarType (catalog : Catalog) (entity field : String) :
    MemoStep Error StorageType := do
  let mapping ← catalog.recallMapping entity
  let found ← settle (mapping.field field)
  match found.type with
  | .scalar scalar => settle (.ok (catalog.dialect.storageType scalar))
  | .association _ =>
      settle (.error (.mapping (.associationAsPrimaryKey found.name mapping.entity)))

variable {catalog : Catalog} {entity field next key : String} {mapping : Mapping}
  {type : StorageType} {memo middle after : Memo}

/-! ## One call -/

theorem recalls_recallTypeReply (catalog : Catalog) (entity field : String) :
    Recalls catalog (catalog.recallTypeReply entity field) (catalog.typeReply entity field) := by
  refine (recalls_recallMapping catalog entity).bind fun mapping _ => ?_
  refine (Recalls.settle (mapping.field field)).bind fun found _ => ?_
  cases found.type with
  | scalar scalar => exact .settle _
  | association association =>
      exact (recalls_recallMapping catalog association.target).bind fun _ _ => .settle _

theorem target_of_sameAs (replied : catalog.typeReply entity field = .ok (.sameAs next key)) :
    ∃ target, catalog.mapping next = .ok target ∧ target.entity = next ∧
      target.key.name = key := by
  obtain ⟨mapping, mapped, continuation⟩ := bind_eq_ok.mp replied
  obtain ⟨found, isField, continuation⟩ := bind_eq_ok.mp continuation
  cases typed : found.type with
  | scalar scalar =>
      simp only [typed] at continuation
      cases continuation
  | association association =>
      simp only [typed] at continuation
      obtain ⟨target, targeted, referred⟩ := bind_eq_ok.mp continuation
      cases referred
      exact ⟨target, mapping_self targeted, rfl, rfl⟩

/-- A call for a primary key is answered at once. -/
theorem typeReply_key (mapped : catalog.mapping entity = .ok mapping) :
    ∃ type, catalog.typeReply mapping.entity mapping.key.name = .ok (.type type) := by
  obtain ⟨scalar, typed⟩ := scalar_key mapped
  have isKey := field?_of_mem mapped (List.mem_of_mem_filter (key_mem_columnFields mapped))
  refine ⟨catalog.dialect.storageType scalar, bind_eq_ok.mpr ⟨mapping, mapping_self mapped, ?_⟩⟩
  refine bind_eq_ok.mpr ⟨mapping.key, Mapping.field_eq_ok.mpr isKey, ?_⟩
  rw [typed]

/-! ## Two calls -/

theorem recallStorageType_eq_bind (catalog : Catalog) (entity field : String) :
    catalog.recallStorageType entity field = catalog.recallTypeReply entity field >>= fun
      | .type type => settle (.ok type)
      | .sameAs next key => catalog.recallScalarType next key := by
  rw [recallStorageType, recallTypeReply, bind_assoc]
  refine bind_congr fun mapping => ?_
  rw [bind_assoc]
  refine bind_congr fun found => ?_
  cases found.type with
  | scalar scalar => rfl
  | association association =>
      dsimp only
      rw [bind_assoc]
      rfl

theorem recallScalarType_of_type
    (replied : catalog.recallTypeReply entity field memo = (.ok (.type type), after)) :
    catalog.recallScalarType entity field memo = (.ok type, after) := by
  obtain ⟨mapping, middle, mapped, continuation⟩ := bind_apply_eq_ok.mp replied
  obtain ⟨found, later, isField, continuation⟩ := bind_apply_eq_ok.mp continuation
  refine bind_apply_eq_ok.mpr ⟨mapping, middle, mapped, ?_⟩
  refine bind_apply_eq_ok.mpr ⟨found, later, isField, ?_⟩
  cases typed : found.type with
  | scalar scalar =>
      simp only [typed] at continuation
      cases continuation
      rfl
  | association association =>
      simp only [typed] at continuation
      obtain ⟨target, last, -, referred⟩ := bind_apply_eq_ok.mp continuation
      cases referred

theorem recallStorageType_of_sameAs
    (replied : catalog.recallTypeReply entity field memo = (.ok (.sameAs next key), middle))
    (keyReplied : catalog.recallTypeReply next key middle = (.ok (.type type), after)) :
    catalog.recallStorageType entity field memo = (.ok type, after) := by
  rw [recallStorageType_eq_bind, bind_apply_of_ok replied]
  exact recallScalarType_of_type keyReplied

/-! ## All calls -/

theorem TypeCalls.deterministic {calls otherCalls : List (String × String)}
    {ended otherEnded : Except Error StorageType × Memo}
    (run : catalog.TypeCalls entity field memo calls ended)
    (otherRun : catalog.TypeCalls entity field memo otherCalls otherEnded) :
    calls = otherCalls ∧ ended = otherEnded := by
  induction run generalizing otherCalls otherEnded with
  | failed replied =>
      cases otherRun with
      | failed other =>
          cases replied.symm.trans other
          exact ⟨rfl, rfl⟩
      | answered other => cases replied.symm.trans other
      | referred other _ => cases replied.symm.trans other
  | answered replied =>
      cases otherRun with
      | failed other => cases replied.symm.trans other
      | answered other =>
          cases replied.symm.trans other
          exact ⟨rfl, rfl⟩
      | referred other _ => cases replied.symm.trans other
  | referred replied _ ih =>
      cases otherRun with
      | failed other => cases replied.symm.trans other
      | answered other => cases replied.symm.trans other
      | referred other otherContinued =>
          cases replied.symm.trans other
          obtain ⟨rfl, rfl⟩ := ih otherContinued
          exact ⟨rfl, rfl⟩

/-- From a sound memo the calls end with the first one or with the one after it, and come to what
the catalog says. -/
theorem exists_typeCalls (catalog : Catalog) (entity field : String)
    (sound : memo.IsSound catalog) :
    ∃ further, catalog.TypeCalls entity field memo ((entity, field) :: further)
        (catalog.recallStorageType entity field memo) ∧
      further.length ≤ 1 := by
  obtain ⟨middle, replied, middleSound, -⟩ :=
    recalls_recallTypeReply catalog entity field memo sound
  cases outcome : catalog.typeReply entity field with
  | error fault =>
      rw [outcome] at replied
      refine ⟨[], ?_, Nat.zero_le 1⟩
      rw [recallStorageType_eq_bind, bind_apply_of_error replied]
      exact .failed replied
  | ok reply =>
      rw [outcome] at replied
      cases reply with
      | type type =>
          refine ⟨[], ?_, Nat.zero_le 1⟩
          rw [recallStorageType_eq_bind, bind_apply_of_ok replied]
          exact .answered replied
      | sameAs next key =>
          obtain ⟨target, targeted, rfl, rfl⟩ := target_of_sameAs outcome
          obtain ⟨type, keyOutcome⟩ := typeReply_key targeted
          obtain ⟨after, keyReplied, -⟩ :=
            recalls_recallTypeReply catalog target.entity target.key.name middle middleSound
          rw [keyOutcome] at keyReplied
          refine ⟨[(target.entity, target.key.name)], ?_, Nat.le_refl 1⟩
          rw [recallStorageType_of_sameAs replied keyReplied]
          exact .referred replied (.answered keyReplied)

/-! ## Answers -/

/-- The scalar that a field is stored as: its own, or that of the primary key of the entity that
it holds. -/
inductive StoresAs (catalog : Catalog) (entity name : String) : ScalarType → Prop
  | own {mapping : Mapping} {field : Field} {scalar : ScalarType}
      (mapped : catalog.mapping entity = .ok mapping) (isField : mapping.field? name = some field)
      (typed : field.type = .scalar scalar) : StoresAs catalog entity name scalar
  | key {mapping target : Mapping} {field : Field} {association : Association}
      {scalar : ScalarType} (mapped : catalog.mapping entity = .ok mapping)
      (isField : mapping.field? name = some field)
      (associated : field.type = .association association)
      (targeted : catalog.mapping association.target = .ok target)
      (typed : target.key.type = .scalar scalar) : StoresAs catalog entity name scalar

theorem storageType_eq_ok :
    catalog.storageType entity field = .ok type ↔
      ∃ scalar, catalog.StoresAs entity field scalar ∧
        type = catalog.dialect.storageType scalar := by
  constructor
  · intro typed
    obtain ⟨mapping, mapped, continuation⟩ := bind_eq_ok.mp typed
    obtain ⟨found, named, continuation⟩ := bind_eq_ok.mp continuation
    have isField := Mapping.field_eq_ok.mp named
    cases fieldTyped : found.type with
    | scalar scalar =>
        simp only [fieldTyped] at continuation
        cases continuation
        exact ⟨scalar, .own mapped isField fieldTyped, rfl⟩
    | association association =>
        simp only [fieldTyped] at continuation
        obtain ⟨target, targeted, continuation⟩ := bind_eq_ok.mp continuation
        obtain ⟨scalar, keyTyped⟩ := scalar_key targeted
        simp only [keyTyped] at continuation
        cases continuation
        exact ⟨scalar, .key mapped isField fieldTyped targeted keyTyped, rfl⟩
  · rintro ⟨scalar, stores, rfl⟩
    cases stores with
    | own mapped isField typed =>
        refine bind_eq_ok.mpr ⟨_, mapped, ?_⟩
        refine bind_eq_ok.mpr ⟨_, Mapping.field_eq_ok.mpr isField, ?_⟩
        rw [typed]
    | key mapped isField associated targeted typed =>
        refine bind_eq_ok.mpr ⟨_, mapped, ?_⟩
        refine bind_eq_ok.mpr ⟨_, Mapping.field_eq_ok.mpr isField, ?_⟩
        rw [associated]
        refine bind_eq_ok.mpr ⟨_, targeted, ?_⟩
        rw [typed]

/-- Whatever a catalog has been asked before, its calls for a storage type end, the second one at
the latest. What they come to is what it answers, and this is the type that its dialect gives to
the scalar that the field is stored as, if there is one. -/
theorem typeCalls_iff_recallStorageType (catalog : Catalog) (asked : List CatalogCall)
    (entity field : String) :
    let memo := (catalog.recallAnswers asked {}).2
    (∃ further, (∀ calls ended, catalog.TypeCalls entity field memo calls ended ↔
        calls = (entity, field) :: further ∧
          ended = catalog.recallStorageType entity field memo) ∧
      further.length ≤ 1) ∧
    (catalog.recallStorageType entity field memo).1 = catalog.storageType entity field ∧
    ∀ type, catalog.storageType entity field = .ok type ↔
      ∃ scalar, catalog.StoresAs entity field scalar ∧
        type = catalog.dialect.storageType scalar := by
  intro memo
  have sound : memo.IsSound catalog :=
    (recallAnswers_of_isSound catalog asked (Memo.isSound_empty catalog)).2.1
  obtain ⟨further, finished, short⟩ := exists_typeCalls catalog entity field sound
  obtain ⟨after, recalled, -⟩ := recalls_recallStorageType catalog entity field memo sound
  refine ⟨⟨further, fun calls ended => ?_, short⟩, ?_, fun type => storageType_eq_ok⟩
  · constructor
    · intro run
      exact run.deterministic finished
    · rintro ⟨rfl, rfl⟩
      exact finished
  · rw [recalled]

/-- Owners of houses that have a house of their own, in a circle. -/
def ownerCatalog : Catalog where
  schema := ⟨[
    { name := "Owner"
      fields := [
        { name := "name", type := .scalar .string, isPrimaryKey := true },
        { name := "home"
          type := .association ⟨"home", "House", .oneToOne "home_id"⟩ }] },
    { name := "House"
      fields := [
        { name := "id", type := .scalar .int64, isPrimaryKey := true },
        { name := "owner"
          type := .association ⟨"owner", "Owner", .oneToOne "owner_name"⟩ }] }]⟩

example : ∃ after, ownerCatalog.TypeCalls "House" "owner" {}
    [("House", "owner"), ("Owner", "name")] (.ok .text, after) :=
  ⟨_, .referred rfl (.answered rfl)⟩

end Catalog

end Persistence
