import Mathlib.Algebra.BigOperators.Group.List.Basic
import Persistence.Proofs.Cache.Inclusion

/-!
# What a cache has on record

The statistics of a cache are a balance. Every look-up is a hit or a miss, and every key that
came in is still held, was turned away, gave way, was removed or went with a clearing. What one
operation adds to either side is the step; a run adds up its steps.
-/

set_option autoImplicit false

namespace Persistence

variable {α : Type}

/-! ## Steps of a run -/

/-- An operation with the cache that it finds. -/
structure CacheStep (α : Type) where
  cache : Cache α
  operation : CacheOperation α

namespace CacheStep

def answer (step : CacheStep α) : CacheAnswer α := (step.cache.perform step.operation).1

def after (step : CacheStep α) : Cache α := (step.cache.perform step.operation).2

def isLookUp (step : CacheStep α) : Bool :=
  match step.operation with
  | .get _ => true
  | _ => false

/-- Whether the step looks a key up and gets a value. -/
def isHit (step : CacheStep α) : Bool :=
  match step.operation, step.answer with
  | .get _, .found (some _) => true
  | _, _ => false

/-- Whether the step inserts a key that the cache does not have. -/
def insertsNew (step : CacheStep α) : Bool :=
  match step.operation with
  | .insert key _ => !step.cache.contains key
  | _ => false

/-- Whether the step inserts a key that the cache has. -/
def isReplacement (step : CacheStep α) : Bool :=
  match step.operation with
  | .insert key _ => step.cache.contains key
  | _ => false

/-- Whether the step is an insertion that answers false. -/
def isTurnedAway (step : CacheStep α) : Bool :=
  match step.operation, step.answer with
  | .insert _ _, .truth false => true
  | _, _ => false

/-- Whether the step removes a key that the cache has. -/
def isRemoval (step : CacheStep α) : Bool :=
  match step.operation, step.answer with
  | .remove _, .found (some _) => true
  | _, _ => false

/-- The number of entries that the step clears away. -/
def sizeCleared (step : CacheStep α) : Nat :=
  match step.operation with
  | .clear => step.cache.size
  | _ => 0

end CacheStep

namespace Cache

variable {cache : Cache α} {slots : List (Slot α)} {key : Int32} {value : α}

/-- Operations performed one after the other, each with the cache that it finds. -/
def steps : Cache α → List (CacheOperation α) → List (CacheStep α)
  | _, [] => []
  | cache, operation :: rest =>
      ⟨cache, operation⟩ :: steps (cache.perform operation).2 rest

theorem map_answer_steps (cache : Cache α) (operations : List (CacheOperation α)) :
    (cache.steps operations).map CacheStep.answer =
      (performAll Cache.perform cache operations).1 := by
  induction operations generalizing cache with
  | nil => rfl
  | cons operation rest ih => exact congrArg (_ :: ·) (ih _)

/-! ## Sizes -/

theorem length_others_of_mem (distinct : (slots.map Prod.fst).Nodup) {slot : Slot α}
    (member : slot ∈ slots) : (Slot.others slot.1 slots).length + 1 = slots.length := by
  have once := List.count_eq_one_of_mem distinct (List.mem_map_of_mem (f := Prod.fst) member)
  have parts := slots.length_eq_countP_add_countP fun other => other.1 != slot.1
  rw [List.count, List.countP_map] at once
  rw [parts, Slot.others, List.countP_eq_length_filter, ← once]
  refine congrArg _ (List.countP_congr fun other _ => ?_)
  simp

theorem Holds.size_drop (holds : cache.Holds slots) (key : Int32) :
    (cache.drop key).size + (cache.contains key).toNat = cache.size := by
  rw [(holds.drop key).size_eq, holds.size_eq, contains]
  cases found : cache.peek? key with
  | none => rw [holds.filter_eq_self found]; rfl
  | some entry => exact length_others_of_mem holds.distinct (holds.peek?_eq_some_iff.mp found)

theorem Holds.size_put (holds : cache.Holds slots) (key : Int32) (value : α) :
    (cache.put key value).size + (cache.contains key).toNat = cache.size + 1 := by
  have dropped := holds.size_drop key
  change (cache.drop key).size + 1 + (cache.contains key).toNat = cache.size + 1
  omega

/-- An entry that gives way is put on record. -/
theorem Holds.size_evictOldest (holds : cache.Holds slots) :
    cache.evictOldest.size + cache.evictOldest.statistics.evictions =
      cache.size + cache.statistics.evictions := by
  have listed := congrArg List.length holds.recency
  rw [List.length_reverse, List.length_map] at listed
  rw [holds.evictOldest.size_eq, holds.size_eq, List.length_dropLast, ← listed, Cache.evictOldest]
  cases cache.recency with
  | nil => rfl
  | cons oldest younger =>
      simp only [List.length_cons]
      omega

theorem Holds.size_get (holds : cache.Holds slots) (key : Int32) :
    (cache.get key).2.size = cache.size := by
  unfold Cache.get
  cases found : cache.peek? key with
  | none => rfl
  | some entry =>
      have size := holds.size_put key entry.value
      rw [contains, found] at size
      exact Nat.add_right_cancel size

theorem contains_put (cache : Cache α) (key : Int32) (value : α) :
    (cache.put key value).contains key = true := by
  rw [contains_eq_true_iff]
  exact ⟨value, by rw [value?_put, if_pos rfl]⟩

theorem statistics_get (cache : Cache α) (key : Int32) :
    (cache.get key).2.statistics =
      if cache.contains key then
        { cache.statistics with hits := cache.statistics.hits + 1 }
      else { cache.statistics with misses := cache.statistics.misses + 1 } := by
  unfold get contains
  cases cache.peek? key with
  | none => rfl
  | some entry => simp

/-! ## Insertions -/

/-- The cache with one more refusal on record. -/
def withRefusal (cache : Cache α) : Cache α :=
  { cache with statistics := { cache.statistics with refusals := cache.statistics.refusals + 1 } }

@[simp] theorem size_withRefusal (cache : Cache α) : cache.withRefusal.size = cache.size := rfl

@[simp] theorem statistics_withRefusal (cache : Cache α) :
    cache.withRefusal.statistics =
      { cache.statistics with refusals := cache.statistics.refusals + 1 } :=
  rfl

/-- The ways an insertion goes: the key is replaced, finds room, is turned away, or comes in for
the oldest entry to give way. -/
inductive Inserts (cache : Cache α) (key : Int32) (value : α) : Bool × Cache α → Prop where
  | replaced (present : cache.contains key = true) :
      Inserts cache key value (true, cache.put key value)
  | added (absent : cache.contains key = false)
      (room : (cache.put key value).size ≤ cache.capacity) :
      Inserts cache key value (true, cache.put key value)
  | turnedAway (absent : cache.contains key = false)
      (full : ¬ (cache.put key value).size ≤ cache.capacity) (refuses : cache.policy = .refuse) :
      Inserts cache key value (false, ((cache.put key value).drop key).withRefusal)
  | givenRoom (absent : cache.contains key = false)
      (full : ¬ (cache.put key value).size ≤ cache.capacity) (evicts : cache.policy = .evict) :
      Inserts cache key value
        ((cache.put key value).evictOldest.contains key, (cache.put key value).evictOldest)

theorem inserts (cache : Cache α) (key : Int32) (value : α) :
    cache.Inserts key value (cache.insert key value) := by
  unfold insert
  dsimp only
  cases present : cache.contains key with
  | true => exact .replaced present
  | false =>
      by_cases room : (cache.put key value).size ≤ cache.capacity
      · simp only [room, Bool.false_eq_true, ↓reduceIte]
        exact .added present room
      · simp only [room, Bool.false_eq_true, ↓reduceIte]
        cases policy : cache.policy with
        | refuse => exact .turnedAway present room policy
        | evict => exact .givenRoom present room policy

theorem statistics_evictOldest (cache : Cache α) :
    cache.evictOldest.statistics =
      { cache.statistics with evictions := cache.evictOldest.statistics.evictions } := by
  unfold evictOldest
  split <;> rfl

namespace Inserts

variable {result : Bool × Cache α}

theorem misses (inserts : cache.Inserts key value result) :
    result.2.statistics.misses = cache.statistics.misses := by
  cases inserts with
  | replaced present => rw [statistics_put]
  | added absent room => rw [statistics_put]
  | turnedAway absent full refuses => simp
  | givenRoom absent full evicts => rw [statistics_evictOldest, statistics_put]

/-- Where new keys are turned away, a refusal is what answers false, and nothing gives way. -/
theorem of_refuse (inserts : cache.Inserts key value result) (refuses : cache.policy = .refuse) :
    result.2.statistics.refusals = cache.statistics.refusals + (!result.1).toNat ∧
      result.2.statistics.evictions = cache.statistics.evictions := by
  cases inserts with
  | replaced present => simp
  | added absent room => simp
  | turnedAway absent full refuses => simp
  | givenRoom absent full evicts => rw [refuses] at evicts; cases evicts

theorem of_evict (inserts : cache.Inserts key value result) (evicts : cache.policy = .evict) :
    result.2.statistics.refusals = cache.statistics.refusals := by
  cases inserts with
  | replaced present => rw [statistics_put]
  | added absent room => rw [statistics_put]
  | turnedAway absent full refuses => rw [evicts] at refuses; cases refuses
  | givenRoom absent full evicts => rw [statistics_evictOldest, statistics_put]

/-- A new key is held, turned away or makes an entry give way, itself perhaps. -/
theorem balance (inserts : cache.Inserts key value result) (holds : cache.Holds slots) :
    result.2.size + result.2.statistics.refusals + result.2.statistics.evictions =
      cache.size + cache.statistics.refusals + cache.statistics.evictions +
        (!cache.contains key).toNat := by
  have extended := holds.put key value
  have size := holds.size_put key value
  cases inserts with
  | replaced present =>
      rw [present] at size ⊢
      simpa using size
  | added absent room =>
      rw [absent] at size ⊢
      simp only [statistics_put, Bool.toNat_false, Bool.not_false, Bool.toNat_true] at size ⊢
      omega
  | turnedAway absent full refuses =>
      have dropped := extended.size_drop key
      rw [contains_put] at dropped
      rw [absent] at size ⊢
      simp only [size_withRefusal, statistics_withRefusal, statistics_drop, statistics_put,
        Bool.toNat_false, Bool.not_false, Bool.toNat_true] at size dropped ⊢
      omega
  | givenRoom absent full evicts =>
      have gaveWay := extended.size_evictOldest
      have unrefused := Inserts.of_evict (.givenRoom absent full evicts) evicts
      rw [absent] at size ⊢
      simp only [statistics_put, Bool.toNat_false] at size gaveWay
      dsimp only at unrefused ⊢
      rw [unrefused, Bool.not_false, Bool.toNat_true]
      omega

end Inserts

/-! ## Runs -/

theorem countP_cons_toNat {β : Type} (counts : β → Bool) (value : β) (values : List β) :
    (value :: values).countP counts = (counts value).toNat + values.countP counts := by
  rw [List.countP_cons, Nat.add_comm]
  cases counts value <;> rfl

theorem sum_toNat {β : Type} (counts : β → Bool) (values : List β) :
    (values.map fun value => (counts value).toNat).sum = values.countP counts := by
  induction values with
  | nil => rfl
  | cons value rest ih => rw [List.map_cons, List.sum_cons, ih, countP_cons_toNat]

/-- The indexes of the cache are in step, and its policy is the given one. -/
structure Governed (policy : FullPolicy) (cache : Cache α) : Prop where
  policy : cache.policy = policy
  held : ∃ slots, cache.Holds slots

namespace Governed

variable {policy : FullPolicy}

theorem empty (capacity : Nat) (policy : FullPolicy) :
    (Cache.empty capacity policy : Cache α).Governed policy :=
  ⟨rfl, [], .nil rfl rfl⟩

theorem perform (governed : cache.Governed policy) (operation : CacheOperation α) :
    (cache.perform operation).2.Governed policy := by
  obtain ⟨slots, holds⟩ := governed.held
  have represents : cache.Represents ⟨cache.capacity, policy, slots.map Slot.pair⟩ :=
    ⟨rfl, governed.policy, slots, holds, rfl⟩
  have kept := (represents.perform operation).2
  refine ⟨?_, kept.held.imp fun _ => And.left⟩
  rw [kept.policy, RecencyList.policy_perform]

/-- If a measure and what a step takes come to the measure before and what the step gives, then
so it is over a run. -/
theorem balance_steps (measure : Cache α → Nat) (taken given : CacheStep α → Nat)
    (balanced : ∀ step : CacheStep α, step.cache.Governed policy →
      measure step.after + taken step = measure step.cache + given step)
    (governed : cache.Governed policy) (operations : List (CacheOperation α)) :
    measure (performAll Cache.perform cache operations).2 +
        ((cache.steps operations).map taken).sum =
      measure cache + ((cache.steps operations).map given).sum := by
  induction operations generalizing cache with
  | nil => rfl
  | cons operation rest ih =>
      have first := balanced ⟨cache, operation⟩ governed
      have others := ih (governed.perform operation)
      simp only [steps, performAll, List.map_cons, List.sum_cons]
      simp only [CacheStep.after] at first
      omega

/-- A number that goes up by one with the steps of a kind, and with no others, counts them. -/
theorem countP_steps (measure : Cache α → Nat) (counts : CacheStep α → Bool)
    (counted : ∀ step : CacheStep α, step.cache.Governed policy →
      measure step.after = measure step.cache + (counts step).toNat)
    (governed : cache.Governed policy) (operations : List (CacheOperation α)) :
    measure (performAll Cache.perform cache operations).2 =
      measure cache + (cache.steps operations).countP counts := by
  have balance := governed.balance_steps measure (fun _ => 0) (fun step => (counts step).toNat)
    counted operations
  rw [sum_toNat, List.map_const', List.sum_replicate_nat, Nat.mul_zero] at balance
  exact balance

/-- A number that no step changes stays as it is. -/
theorem unchanged_steps (measure : Cache α → Nat)
    (kept : ∀ step : CacheStep α, step.cache.Governed policy →
      measure step.after = measure step.cache)
    (governed : cache.Governed policy) (operations : List (CacheOperation α)) :
    measure (performAll Cache.perform cache operations).2 = measure cache := by
  have counted := governed.countP_steps measure (fun _ => false) kept operations
  rw [counted, List.countP_false]
  rfl

end Governed

end Cache

/-! ## What a step puts on record -/

namespace CacheStep

open Cache

theorem lookUps_after (step : CacheStep α) :
    step.after.statistics.hits + step.after.statistics.misses =
      step.cache.statistics.hits + step.cache.statistics.misses + step.isLookUp.toNat := by
  obtain ⟨cache, operation⟩ := step
  simp only [after]
  cases operation with
  | insert key value =>
      simp only [perform, hits_insert, (cache.inserts key value).misses]
      rfl
  | get key =>
      simp only [perform, statistics_get, isLookUp, Bool.toNat_true]
      split <;> dsimp only <;> omega
  | remove key =>
      simp only [perform, Cache.remove, statistics_drop]
      rfl
  | _ => rfl

theorem hits_after (step : CacheStep α) :
    step.after.statistics.hits = step.cache.statistics.hits + step.isHit.toNat := by
  obtain ⟨cache, operation⟩ := step
  have counted := cache.hits_perform operation
  cases operation with
  | get key =>
      simp only [after, isHit, answer, counted]
      simp only [perform]
      cases (cache.get key).1 <;> rfl
  | _ => exact counted

/-- Where new keys are turned away, an insertion that answers false is a refusal, and nothing
gives way. -/
theorem after_of_refuse (step : CacheStep α) (refuses : step.cache.policy = .refuse) :
    step.after.statistics.refusals =
        step.cache.statistics.refusals + step.isTurnedAway.toNat ∧
      step.after.statistics.evictions = step.cache.statistics.evictions := by
  obtain ⟨cache, operation⟩ := step
  cases operation with
  | insert key value =>
      have inserted := (cache.inserts key value).of_refuse refuses
      simp only [after, isTurnedAway, answer, perform]
      cases answered : (cache.insert key value).1 <;> simpa [answered] using inserted
  | get key =>
      simp only [after, perform, statistics_get]
      cases cache.contains key <;> simp [isTurnedAway]
  | remove key =>
      have kept := cache.statistics_drop key
      exact ⟨congrArg CacheStatistics.refusals kept, congrArg CacheStatistics.evictions kept⟩
  | _ => exact ⟨rfl, rfl⟩

theorem refusals_of_evict (step : CacheStep α) (evicts : step.cache.policy = .evict) :
    step.after.statistics.refusals = step.cache.statistics.refusals := by
  obtain ⟨cache, operation⟩ := step
  cases operation with
  | insert key value => exact (cache.inserts key value).of_evict evicts
  | get key =>
      simp only [after, perform, statistics_get]
      split <;> rfl
  | remove key => exact congrArg CacheStatistics.refusals (cache.statistics_drop key)
  | _ => rfl

/-- The entries that have come in are those held and those accounted for. -/
theorem entries_after (step : CacheStep α) {policy : FullPolicy}
    (governed : step.cache.Governed policy) :
    step.after.size + step.after.statistics.refusals + step.after.statistics.evictions +
        (step.isRemoval.toNat + step.sizeCleared) =
      step.cache.size + step.cache.statistics.refusals + step.cache.statistics.evictions +
        step.insertsNew.toNat := by
  obtain ⟨slots, holds⟩ := governed.held
  obtain ⟨cache, operation⟩ := step
  dsimp only at holds
  cases operation with
  | insert key value => exact (cache.inserts key value).balance holds
  | get key =>
      have kept := holds.size_get key
      simp only [after, perform, statistics_get, kept]
      split <;> rfl
  | remove key =>
      have dropped := holds.size_drop key
      have removal : isRemoval ⟨cache, .remove key⟩ = cache.contains key := by
        simp only [isRemoval, answer, perform, Cache.remove, contains]
        cases cache.peek? key <;> rfl
      rw [removal]
      simp only [after, perform, Cache.remove, statistics_drop, sizeCleared, insertsNew,
        Bool.toNat_false]
      omega
  | clear =>
      simp only [after, perform, Cache.clear, Cache.size, List.length_nil, isRemoval, sizeCleared,
        insertsNew, Bool.toNat_false]
      omega
  | contains key => rfl
  | size => rfl

/-- A replacement is not put on record at all. -/
theorem statistics_of_isReplacement {step : CacheStep α} (replaces : step.isReplacement = true) :
    step.after.statistics = step.cache.statistics := by
  obtain ⟨cache, operation⟩ := step
  cases operation with
  | insert key value =>
      have present : cache.contains key = true := replaces
      simp only [after, perform, Cache.insert, if_pos present, statistics_put]
  | _ => cases replaces

end CacheStep

/-! ## What a run puts on record -/

namespace Cache

/-- Whatever is done to a new cache, the look-ups are its hits and misses, and the hits those
that were answered. Every key that came in new is held, or was turned away, gave way, was removed
or cleared away. A cache that turns keys away has as many refusals as insertions that answered
false, and no evictions; one that makes room has no refusals. A replacement changes nothing on
record. -/
theorem statistics_performAll (capacity : Nat) (policy : FullPolicy)
    (operations : List (CacheOperation α)) :
    let cache := (performAll Cache.perform (Cache.empty capacity policy) operations).2
    let steps := (Cache.empty capacity policy).steps operations
    let statistics := cache.statistics
    statistics.hits + statistics.misses = steps.countP CacheStep.isLookUp ∧
      statistics.hits = steps.countP CacheStep.isHit ∧
      cache.size + statistics.refusals + statistics.evictions +
          (steps.countP CacheStep.isRemoval + (steps.map CacheStep.sizeCleared).sum) =
        steps.countP CacheStep.insertsNew ∧
      (match policy with
        | .refuse =>
            statistics.refusals = steps.countP CacheStep.isTurnedAway ∧ statistics.evictions = 0
        | .evict => statistics.refusals = 0) ∧
      ∀ step ∈ steps, step.isReplacement = true →
        step.after.statistics = step.cache.statistics := by
  intro cache steps statistics
  have governed := Governed.empty (α := α) capacity policy
  refine ⟨?_, ?_, ?_, ?_, fun step _ => CacheStep.statistics_of_isReplacement⟩
  · have counted := governed.countP_steps
      (fun cache => cache.statistics.hits + cache.statistics.misses) CacheStep.isLookUp
      (fun step _ => step.lookUps_after) operations
    exact counted.trans (Nat.zero_add _)
  · have counted := governed.countP_steps (fun cache => cache.statistics.hits)
      CacheStep.isHit (fun step _ => step.hits_after) operations
    exact counted.trans (Nat.zero_add _)
  · have balance := governed.balance_steps
      (fun cache => cache.size + cache.statistics.refusals + cache.statistics.evictions)
      (fun step => step.isRemoval.toNat + step.sizeCleared) (fun step => step.insertsNew.toNat)
      (fun step held => step.entries_after held) operations
    rw [List.sum_map_add, sum_toNat, sum_toNat] at balance
    exact balance.trans (Nat.zero_add _)
  · cases policy with
    | refuse =>
        have refused := governed.countP_steps (fun cache => cache.statistics.refusals)
          CacheStep.isTurnedAway (fun step held => (step.after_of_refuse held.policy).1) operations
        have evicted := governed.unchanged_steps (fun cache => cache.statistics.evictions)
          (fun step held => (step.after_of_refuse held.policy).2) operations
        exact ⟨refused.trans (Nat.zero_add _), evicted⟩
    | evict =>
        exact governed.unchanged_steps (fun cache => cache.statistics.refusals)
          (fun step held => step.refusals_of_evict held.policy) operations

-- What a cache without room takes in gives way at once.
example :
    (performAll Cache.perform (Cache.empty 0 .evict) [.insert 1 "a", .insert 1 "b", .get 1]).2 =
      { Cache.empty 0 .evict with tick := 3, statistics := { misses := 1, evictions := 2 } } := by
  decide

end Cache

end Persistence
