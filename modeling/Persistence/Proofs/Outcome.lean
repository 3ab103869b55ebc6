import Mathlib.Data.List.Forall2

/-!
# Outcomes

When a computation that may fail succeeds: each of its steps did, and the result is that of
the last one.
-/

set_option autoImplicit false

namespace Persistence

variable {ε δ α β : Type}

theorem bind_eq_ok {computation : Except ε α} {next : α → Except ε β} {result : β} :
    (computation >>= next) = .ok result ↔
      ∃ value, computation = .ok value ∧ next value = .ok result := by
  cases computation with
  | error fault => simp [bind, Except.bind]
  | ok value => simp [bind, Except.bind]

/-- A computation succeeds if its first step does and what follows does with its result. -/
theorem exists_bind {computation : Except ε α} {next : α → Except ε β} {value : α}
    (computed : computation = .ok value) (continued : ∃ result, next value = .ok result) :
    ∃ result, (computation >>= next) = .ok result := by
  obtain ⟨result, resultOk⟩ := continued
  exact ⟨result, bind_eq_ok.mpr ⟨value, computed, resultOk⟩⟩

theorem mapError_eq_ok {computation : Except ε α} {translate : ε → δ} {result : α} :
    computation.mapError translate = .ok result ↔ computation = .ok result := by
  cases computation <;> simp [Except.mapError]

/-- A computation on each element of a list succeeds with the results in order. -/
theorem mapM_eq_ok {computation : α → Except ε β} {values : List α} {results : List β} :
    values.mapM computation = .ok results ↔
      List.Forall₂ (fun value result => computation value = .ok result) values results := by
  induction values generalizing results with
  | nil =>
      simp only [List.mapM_nil, pure, Except.pure, Except.ok.injEq, List.forall₂_nil_left_iff]
      exact eq_comm
  | cons value values ih =>
      rw [List.mapM_cons, bind_eq_ok, List.forall₂_cons_left_iff]
      constructor
      · rintro ⟨first, firstOk, continuation⟩
        obtain ⟨others, othersOk, shape⟩ := bind_eq_ok.mp continuation
        cases shape
        exact ⟨first, others, firstOk, ih.mp othersOk, rfl⟩
      · rintro ⟨first, others, firstOk, othersOk, rfl⟩
        exact ⟨first, firstOk, bind_eq_ok.mpr ⟨others, ih.mpr othersOk, rfl⟩⟩

theorem exists_result_at {computation : α → Except ε β} {values : List α} {results : List β}
    (computed : List.Forall₂ (fun value result => computation value = .ok result) values results)
    {value : α} (member : value ∈ values) :
    ∃ result, (value, result) ∈ values.zip results ∧ computation value = .ok result := by
  induction computed with
  | nil => exact absurd member List.not_mem_nil
  | @cons _ first _ results firstOk _ ih =>
      rcases List.mem_cons.mp member with rfl | inRest
      · exact ⟨first, List.mem_cons_self, firstOk⟩
      · obtain ⟨result, isResult, resultOk⟩ := ih inRest
        exact ⟨result, List.mem_cons_of_mem _ isResult, resultOk⟩

theorem exists_result {computation : α → Except ε β} {values : List α} {results : List β}
    (computed : List.Forall₂ (fun value result => computation value = .ok result) values results)
    {value : α} (member : value ∈ values) :
    ∃ result ∈ results, computation value = .ok result := by
  obtain ⟨result, isResult, resultOk⟩ := exists_result_at computed member
  exact ⟨result, (List.of_mem_zip isResult).2, resultOk⟩

theorem mem_results_iff {computation : α → Except ε β} {values : List α} {results : List β}
    (computed : List.Forall₂ (fun value result => computation value = .ok result) values results)
    {result : β} :
    result ∈ results ↔ ∃ value ∈ values, computation value = .ok result := by
  induction computed with
  | nil => simp
  | @cons value first values results firstOk othersOk ih =>
      rw [List.mem_cons, ih, List.exists_mem_cons_iff, firstOk, Except.ok.injEq, eq_comm]

/-- Results that tell what the values tell, one by one, tell the same in order. -/
theorem map_results {γ : Type} {computation : α → Except ε β} {values : List α}
    {results : List β} {ofValue : α → γ} {ofResult : β → γ}
    (computed : List.Forall₂ (fun value result => computation value = .ok result) values results)
    (each : ∀ value ∈ values, ∀ result, computation value = .ok result →
      ofResult result = ofValue value) :
    results.map ofResult = values.map ofValue := by
  induction computed with
  | nil => rfl
  | cons firstOk _ ih =>
      obtain ⟨first, others⟩ := List.forall_mem_cons.mp each
      rw [List.map_cons, List.map_cons, first _ firstOk, ih others]

theorem exists_mapM {computation : α → Except ε β} {values : List α}
    (each : ∀ value ∈ values, ∃ result, computation value = .ok result) :
    ∃ results, values.mapM computation = .ok results := by
  induction values with
  | nil => exact ⟨[], rfl⟩
  | cons value values ih =>
      obtain ⟨first, firstOk⟩ := each value List.mem_cons_self
      obtain ⟨others, othersOk⟩ := ih fun other member =>
        each other (List.mem_cons_of_mem value member)
      exact ⟨first :: others, mapM_eq_ok.mpr (.cons firstOk (mapM_eq_ok.mp othersOk))⟩

/-! ## Computations with a state -/

section State

variable {σ : Type} {step : ExceptT ε (StateM σ) α} {state middle : σ}

theorem bind_apply_of_ok {value : α} (ended : step state = (.ok value, middle))
    (next : α → ExceptT ε (StateM σ) β) : (step >>= next) state = next value middle := by
  change ExceptT.bindCont next (step state).1 (step state).2 = next value middle
  rw [ended]
  rfl

theorem bind_apply_of_error {fault : ε} (ended : step state = (.error fault, middle))
    (next : α → ExceptT ε (StateM σ) β) : (step >>= next) state = (.error fault, middle) := by
  change ExceptT.bindCont next (step state).1 (step state).2 = (.error fault, middle)
  rw [ended]
  rfl

theorem bind_apply_eq_ok {next : α → ExceptT ε (StateM σ) β} {after : σ} {result : β} :
    (step >>= next) state = (.ok result, after) ↔
      ∃ value middle, step state = (.ok value, middle) ∧
        next value middle = (.ok result, after) := by
  constructor
  · intro succeeded
    rcases ended : step state with ⟨outcome, middle⟩
    cases outcome with
    | error fault =>
        rw [bind_apply_of_error ended] at succeeded
        cases succeeded
    | ok value =>
        rw [bind_apply_of_ok ended] at succeeded
        exact ⟨value, middle, rfl, succeeded⟩
  · rintro ⟨value, middle, ended, succeeded⟩
    rw [bind_apply_of_ok ended, succeeded]

theorem map_apply (translate : α → β) (step : ExceptT ε (StateM σ) α) (state : σ) :
    (translate <$> step) state = ((step state).1.map translate, (step state).2) := by
  change ExceptT.map translate step state = _
  rcases ended : step state with ⟨outcome, after⟩
  simp only [ExceptT.map, ExceptT.mk, bind, StateT.bind, ended]
  cases outcome <;> rfl

end State

/-! ## First faults -/

/-- The fault with which the computation ends, if it fails. -/
def fault? : Except ε α → Option ε
  | .error fault => some fault
  | .ok _ => none

theorem fault?_eq_some {computation : Except ε α} {fault : ε} :
    fault? computation = some fault ↔ computation = .error fault := by
  cases computation <;> simp [fault?]

theorem fault?_eq_none {computation : Except ε α} :
    fault? computation = none ↔ ∃ result, computation = .ok result := by
  cases computation <;> simp [fault?]

/-- Of two steps the first one fails first. -/
theorem fault?_bind {computation : Except ε α} {next : α → Except ε β} {later : Option ε}
    (continued : ∀ value, fault? (next value) = later) :
    fault? (computation >>= next) = (fault? computation).or later := by
  cases computation with
  | error fault => rfl
  | ok value => exact continued value

theorem fault?_bind_ok {computation : Except ε α} {next : α → β} :
    fault? (computation >>= fun value => .ok (next value)) = fault? computation := by
  cases computation <;> rfl

/-- A computation on each element of a list fails as the first of all their parts does. -/
theorem fault?_mapM {γ : Type} {computation : α → Except ε β} {parts : α → List γ}
    {faultOf : γ → Option ε} (values : List α)
    (each : ∀ value ∈ values, fault? (computation value) = (parts value).findSome? faultOf) :
    fault? (values.mapM computation) = (values.flatMap parts).findSome? faultOf := by
  induction values with
  | nil => rfl
  | cons value values ih =>
      obtain ⟨first, others⟩ := List.forall_mem_cons.mp each
      have rest (result : β) :
          fault? (values.mapM computation >>= fun results => .ok (result :: results)) =
            (values.flatMap parts).findSome? faultOf := by
        rw [fault?_bind_ok, ih others]
      rw [List.mapM_cons, List.flatMap_cons, List.findSome?_append, ← first]
      exact fault?_bind rest

/-! ## Tolerated failures -/

/-- A computation that succeeds or fails in one of the tolerated ways. -/
def FailsOnly (tolerated : ε → Prop) (computation : Except ε α) : Prop :=
  ∀ fault, computation = .error fault → tolerated fault

section FailsOnly

variable {tolerated : ε → Prop}

theorem FailsOnly.of_ok {computation : Except ε α} {result : α}
    (computed : computation = .ok result) : FailsOnly tolerated computation := by
  intro fault failed
  rw [computed] at failed
  cases failed

theorem FailsOnly.bind {computation : Except ε α} {next : α → Except ε β}
    (first : FailsOnly tolerated computation)
    (continued : ∀ value, computation = .ok value → FailsOnly tolerated (next value)) :
    FailsOnly tolerated (computation >>= next) := by
  intro fault failed
  cases computed : computation with
  | error reported =>
      rw [computed] at failed
      cases failed
      exact first fault computed
  | ok value =>
      rw [computed] at failed
      exact continued value computed fault failed

theorem FailsOnly.mapM {computation : α → Except ε β} {values : List α}
    (each : ∀ value ∈ values, FailsOnly tolerated (computation value)) :
    FailsOnly tolerated (values.mapM computation) := by
  induction values with
  | nil => exact .of_ok rfl
  | cons value values ih =>
      rw [List.mapM_cons]
      refine .bind (each value List.mem_cons_self) fun first _ => ?_
      refine .bind (ih fun other member => each other (List.mem_cons_of_mem value member)) ?_
      intro others _
      exact .of_ok rfl

end FailsOnly

/-! ## Two computations -/

/-- Both computations fail with the same error, or both succeed with related results. -/
inductive SameOutcome (related : α → β → Prop) : Except ε α → Except ε β → Prop where
  | error (fault : ε) : SameOutcome related (.error fault) (.error fault)
  | ok {left : α} {right : β} (results : related left right) :
      SameOutcome related (.ok left) (.ok right)

namespace SameOutcome

variable {γ : Type}

theorem bind {related : α → β → Prop} {others : γ → δ → Prop} {left : Except ε α}
    {right : Except ε β} {leftNext : α → Except ε γ} {rightNext : β → Except ε δ}
    (same : SameOutcome related left right)
    (continued : ∀ first second, related first second →
      SameOutcome others (leftNext first) (rightNext second)) :
    SameOutcome others (left >>= leftNext) (right >>= rightNext) := by
  cases same with
  | error fault => exact .error fault
  | ok results => exact continued _ _ results

theorem imp {related others : α → β → Prop} {left : Except ε α} {right : Except ε β}
    (same : SameOutcome related left right)
    (implies : ∀ first second, related first second → others first second) :
    SameOutcome others left right := by
  cases same with
  | error fault => exact .error fault
  | ok results => exact .ok (implies _ _ results)

theorem map {related : α → β → Prop} {others : γ → δ → Prop} {left : Except ε α}
    {right : Except ε β} {leftNext : α → γ} {rightNext : β → δ}
    (same : SameOutcome related left right)
    (continued : ∀ first second, related first second →
      others (leftNext first) (rightNext second)) :
    SameOutcome others (leftNext <$> left) (rightNext <$> right) := by
  cases same with
  | error fault => exact .error fault
  | ok results => exact .ok (continued _ _ results)

/-- Two computations that begin with the same step. -/
theorem bind_shared {related : β → γ → Prop} (step : Except ε α) {leftNext : α → Except ε β}
    {rightNext : α → Except ε γ}
    (continued : ∀ value, step = .ok value →
      SameOutcome related (leftNext value) (rightNext value)) :
    SameOutcome related (step >>= leftNext) (step >>= rightNext) := by
  cases computed : step with
  | error fault => exact .error fault
  | ok value => exact continued value computed

theorem mapM {related : β → γ → Prop} {left : α → Except ε β} {right : α → Except ε γ}
    (values : List α) (each : ∀ value ∈ values, SameOutcome related (left value) (right value)) :
    SameOutcome (List.Forall₂ related) (values.mapM left) (values.mapM right) := by
  induction values with
  | nil => exact .ok .nil
  | cons value values ih =>
      obtain ⟨first, others⟩ := List.forall_mem_cons.mp each
      rw [List.mapM_cons, List.mapM_cons]
      refine first.bind fun leftFirst rightFirst related => ?_
      exact (ih others).bind fun leftOthers rightOthers othersRelated =>
        .ok (.cons related othersRelated)

end SameOutcome

/-- Both computations fail, be it for different reasons, or both succeed with related results. -/
inductive FailTogether (related : α → β → Prop) : Except ε α → Except ε β → Prop where
  | failed (left right : ε) : FailTogether related (.error left) (.error right)
  | succeeded {left : α} {right : β} (results : related left right) :
      FailTogether related (.ok left) (.ok right)

namespace FailTogether

theorem of_eq_ok_iff {left right : Except ε α}
    (same : ∀ result, left = .ok result ↔ right = .ok result) :
    FailTogether Eq left right := by
  cases left with
  | ok result =>
      rw [(same result).mp rfl]
      exact .succeeded rfl
  | error fault =>
      cases right with
      | ok result => cases (same result).mpr rfl
      | error other => exact .failed fault other

theorem of_ne_ok {related : α → β → Prop} {left : Except ε α} {right : Except ε β}
    (leftFails : ∀ result, left ≠ .ok result) (rightFails : ∀ result, right ≠ .ok result) :
    FailTogether related left right := by
  cases left with
  | ok result => exact absurd rfl (leftFails result)
  | error fault =>
      cases right with
      | ok result => exact absurd rfl (rightFails result)
      | error other => exact .failed fault other

end FailTogether

end Persistence
