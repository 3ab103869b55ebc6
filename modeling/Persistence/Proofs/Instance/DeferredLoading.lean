import Persistence.Instance.Deferred
import Persistence.Proofs.Instance.Identity

/-!
# References under loading

A reference that is loaded again and again, by loaders of any kind. A loader is asked until one
has found a record, and that record stays. What the reference is taken for does not depend on
what has been found: its entity is its own, and its key comes before that of the record.
-/

set_option autoImplicit false

namespace Persistence

variable {σ : Type}

/-! ## Loaders -/

/-- What may be asked for an instance. It may fail, and what it does may depend on a state that
it shares with other loaders. -/
abbrev Loader (σ : Type) := String → Value → ExceptT Error (StateM σ) (Option Record)

/-- A call of a loader: what it was asked for, and how it ended. -/
structure LoaderCall where
  entity : String
  key : Value
  outcome : Except Error (Option Record)

/-- The record that the loader returned. -/
def LoaderCall.found? (call : LoaderCall) : Option Record := call.outcome.toOption.join

/-- The loader, with its calls put on record. -/
def Loader.recorded (loader : Loader σ) : Loader (σ × List LoaderCall) :=
  fun entity key (state, calls) =>
    let (outcome, after) := loader entity key state
    (outcome, after, calls ++ [⟨entity, key, outcome⟩])

/-- A loader that ends in the given way, and counts how often one of its kind is called. -/
def Loader.ending (outcome : Except Error (Option Record)) : Loader Nat :=
  fun _ _ number => (outcome, number + 1)

/-! ## Loading -/

/-- A reference in use, with the state that its loaders share and the calls on record. -/
structure DeferredUse (σ : Type) where
  reference : Deferred
  state : σ
  calls : List LoaderCall := []

namespace DeferredUse

/-- One load. If it fails the reference stays what it is. -/
def load (use : DeferredUse σ) (loader : Loader σ) : DeferredUse σ :=
  match use.reference.load loader.recorded (use.state, use.calls) with
  | (.ok reference, state, calls) => ⟨reference, state, calls⟩
  | (.error _, state, calls) => ⟨use.reference, state, calls⟩

/-- One load after the other. -/
def loadAll (use : DeferredUse σ) (loaders : List (Loader σ)) : DeferredUse σ :=
  loaders.foldl load use

/-- The first record that a loader has returned. -/
def found? (use : DeferredUse σ) : Option Record := use.calls.findSome? LoaderCall.found?

/-- The call that a loader gets next. -/
def next (use : DeferredUse σ) (loader : Loader σ) : LoaderCall :=
  ⟨use.reference.entity, use.reference.key,
    (loader use.reference.entity use.reference.key use.state).1⟩

variable {use : DeferredUse σ} {reference : Deferred}

theorem load_of_loaded {record : Record} (loaded : use.reference.loaded = some record)
    (loader : Loader σ) : use.load loader = use := by
  simp only [load, Deferred.load, loaded]
  rfl

/-- A reference that is not loaded asks the loader, and has what it returned, if anything. -/
theorem load_of_unloaded (unloaded : use.reference.loaded = none) (loader : Loader σ) :
    use.load loader =
      ⟨{ use.reference with loaded := (use.next loader).found? },
        (loader use.reference.entity use.reference.key use.state).2,
        use.calls ++ [use.next loader]⟩ := by
  obtain ⟨⟨entity, keyField, key, loaded⟩, state, calls⟩ := use
  cases unloaded
  rcases ended : loader entity key state with ⟨outcome, after⟩
  have recorded : loader.recorded entity key (state, calls) =
      (outcome, after, calls ++ [⟨entity, key, outcome⟩]) := by
    rw [Loader.recorded, ended]
  simp only [load, Deferred.load, next, ended]
  cases outcome with
  | error fault =>
      rw [bind_apply_of_error recorded]
      rfl
  | ok found =>
      rw [bind_apply_of_ok recorded]
      rfl

/-- A load whose loader returns no record, be it that it fails, leaves the reference as it is. -/
theorem reference_of_not_found (loader : Loader σ) (nothing : (use.next loader).found? = none) :
    (use.load loader).reference = use.reference := by
  cases present : use.reference.loaded with
  | some record => rw [load_of_loaded present]
  | none =>
      rw [load_of_unloaded present, nothing, ← present]

/-! ## Runs -/

/-- The use is one of the reference: nothing has been asked but for its entity and key, and it
has the first record that was returned. -/
structure Follows (reference : Deferred) (use : DeferredUse σ) : Prop where
  same : use.reference = { reference with loaded := use.found? }
  asked : ∀ call ∈ use.calls, call.entity = reference.entity ∧ call.key = reference.key

namespace Follows

theorem begin (unloaded : reference.loaded = none) (state : σ) :
    Follows reference ⟨reference, state, []⟩ where
  same := by
    obtain ⟨entity, keyField, key, loaded⟩ := reference
    cases unloaded
    rfl
  asked call member := absurd member List.not_mem_nil

theorem loaded (follows : Follows reference use) : use.reference.loaded = use.found? := by
  rw [follows.same]

theorem load_of_found (follows : Follows reference use) {record : Record}
    (found : use.found? = some record) (loader : Loader σ) : use.load loader = use :=
  load_of_loaded (follows.loaded.trans found) loader

theorem next_eq (follows : Follows reference use) (loader : Loader σ) :
    use.next loader = ⟨reference.entity, reference.key,
      (loader reference.entity reference.key use.state).1⟩ := by
  rw [next, follows.same]

theorem calls_of_not_found (follows : Follows reference use) (found : use.found? = none)
    (loader : Loader σ) : (use.load loader).calls = use.calls ++ [use.next loader] := by
  rw [load_of_unloaded (follows.loaded.trans found)]

theorem load (follows : Follows reference use) (loader : Loader σ) :
    Follows reference (use.load loader) := by
  cases found : use.found? with
  | some record =>
      rw [follows.load_of_found found]
      exact follows
  | none =>
      constructor
      · rw [load_of_unloaded (follows.loaded.trans found), found?, List.findSome?_append,
          List.findSome?_singleton, ← found?, found, Option.none_or, follows.same]
      · intro call member
        rw [follows.calls_of_not_found found, List.mem_append, List.mem_singleton] at member
        rcases member with earlier | rfl
        · exact follows.asked call earlier
        · rw [follows.next_eq]
          exact ⟨rfl, rfl⟩

theorem loadAll (follows : Follows reference use) (loaders : List (Loader σ)) :
    Follows reference (use.loadAll loaders) := by
  induction loaders generalizing use with
  | nil => exact follows
  | cons loader rest ih => exact ih (follows.load loader)

end Follows

end DeferredUse

/-! ## Identity -/

namespace Catalog

variable {catalog : Catalog} {reference : Deferred}

/-- The key of a reference is its own, whatever record it has. -/
theorem keyValue_deferred
    (keyed : ∀ mapping, catalog.mapping reference.entity = .ok mapping →
      reference.keyField = mapping.key.name) (loaded : Option Record) :
    catalog.keyValue { reference with loaded }.toInstance =
      (catalog.mapping reference.entity).map fun _ => reference.key := by
  unfold keyValue
  change (catalog.mapping reference.entity >>= _) = _
  cases mapped : catalog.mapping reference.entity with
  | error fault => rfl
  | ok mapping =>
      have own : { reference with loaded }.value? mapping.key.name = some reference.key :=
        if_pos (keyed mapping mapped).symm
      change Except.ok (({ reference with loaded }.value? mapping.key.name).getD .null) = _
      rw [own]
      rfl

end Catalog

/-- The catalog takes both instances for the same. -/
structure SameIdentity (catalog : Catalog) (item other : Instance) : Prop where
  entity : item.entity = other.entity
  keyValue : catalog.keyValue item = catalog.keyValue other
  identityHashOf : catalog.identityHashOf item = catalog.identityHashOf other
  hasIdentity : ∀ entity key,
    catalog.hasIdentity item entity key = catalog.hasIdentity other entity key

theorem SameIdentity.of_keyValue {catalog : Catalog} {item other : Instance}
    (entity : item.entity = other.entity)
    (keyValue : catalog.keyValue item = catalog.keyValue other) :
    SameIdentity catalog item other := by
  refine ⟨entity, keyValue, ?_, fun name key => ?_⟩
  · rw [Catalog.identityHashOf, Catalog.identityHashOf, keyValue, entity]
  · rw [Catalog.hasIdentity, Catalog.hasIdentity, keyValue, entity]

namespace DeferredUse

/-- However a reference is loaded that is not loaded at first: a loader is called if none of the
earlier ones has returned a record, and only then; it is always called for the entity and key of
the reference. A loader that fails or finds nothing leaves the reference as it is, and the first
record returned is what the reference has from then on. A catalog takes it for what it was at
first, if its key is in the field of the primary key. -/
theorem loadAll_of_unloaded (catalog : Catalog) {reference : Deferred}
    (unloaded : reference.loaded = none)
    (keyed : ∀ mapping, catalog.mapping reference.entity = .ok mapping →
      reference.keyField = mapping.key.name)
    (state : σ) (earlier : List (Loader σ)) (loader : Loader σ) :
    let reached := loadAll ⟨reference, state, []⟩ earlier
    let call : LoaderCall := ⟨reference.entity, reference.key,
      (loader reference.entity reference.key reached.state).1⟩
    (reached.load loader).calls =
        (if reached.found?.isSome then reached.calls else reached.calls ++ [call]) ∧
      (∀ call ∈ reached.calls, call.entity = reference.entity ∧ call.key = reference.key) ∧
      (call.found? = none → (reached.load loader).reference = reached.reference) ∧
      (reached.found?.isSome → reached.load loader = reached) ∧
      reached.reference = { reference with loaded := reached.found? } ∧
      SameIdentity catalog reached.reference.toInstance reference.toInstance := by
  intro reached call
  have follows : Follows reference reached := (Follows.begin unloaded state).loadAll earlier
  have identity : SameIdentity catalog reached.reference.toInstance reference.toInstance := by
    rw [follows.same]
    refine .of_keyValue rfl ?_
    have atFirst := Catalog.keyValue_deferred keyed reference.loaded
    rw [Catalog.keyValue_deferred keyed]
    exact atFirst.symm
  have next : reached.next loader = call := follows.next_eq loader
  refine ⟨?_, follows.asked, ?_, ?_, follows.same, identity⟩
  · cases found : reached.found? with
    | some record => rw [follows.load_of_found found]; rfl
    | none => rw [follows.calls_of_not_found found, next]; rfl
  · intro nothing
    exact reference_of_not_found loader (next ▸ nothing)
  · intro found
    obtain ⟨record, found⟩ := Option.isSome_iff_exists.mp found
    exact follows.load_of_found found loader

/-! ## A device that turns out to be a level -/

theorem loadAll_of_unloaded_device :
    let reference : Deferred := { entity := "Device", keyField := "id", key := .int64 7 }
    let level : Record := ⟨"Level", [("id", .int64 8)]⟩
    let earlier : List (Loader Nat) :=
      [.ending (.error (.storage (.reported "offline"))), .ending (.ok none),
        .ending (.ok (some level)), .ending (.ok none)]
    let loader : Loader Nat := .ending (.ok (some ⟨"Device", [("id", .int64 7)]⟩))
    let reached := loadAll ⟨reference, 0, []⟩ earlier
    let call : LoaderCall := ⟨"Device", .int64 7, (loader "Device" (.int64 7) reached.state).1⟩
    (reference.loaded = none ∧
        (∀ mapping, Catalog.deviceCatalog.mapping "Device" = .ok mapping → "id" = mapping.key.name) ∧
        reached.state = 3 ∧ reached.found? = some level) ∧
      (reached.load loader).calls =
        (if reached.found?.isSome then reached.calls else reached.calls ++ [call]) ∧
      (∀ call ∈ reached.calls, call.entity = "Device" ∧ call.key = .int64 7) ∧
      (call.found? = none → (reached.load loader).reference = reached.reference) ∧
      (reached.found?.isSome → reached.load loader = reached) ∧
      reached.reference = { reference with loaded := reached.found? } ∧
      SameIdentity Catalog.deviceCatalog reached.reference.toInstance reference.toInstance := by
  have keyed : ∀ mapping, Catalog.deviceCatalog.mapping "Device" = .ok mapping →
      "id" = mapping.key.name := by
    intro mapping mapped
    cases mapped
    rfl
  exact ⟨⟨rfl, keyed, rfl, rfl⟩, loadAll_of_unloaded Catalog.deviceCatalog rfl keyed 0 _ _⟩

end DeferredUse

end Persistence
