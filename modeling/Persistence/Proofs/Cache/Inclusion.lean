import Mathlib.Algebra.GroupWithZero.Nat
import Mathlib.Data.List.Forall2
import Persistence.Proofs.Cache.LookUp
import Persistence.Proofs.Cache.Refinement

/-!
# Larger caches

A larger cache is never worse. Of two new caches with one policy that go through the same
operations, the larger one holds whatever the smaller one holds, answers every operation at
least as well, and has counted no fewer hits. What carries this is a relation of their recency
lists: the smaller list is a sublist of the larger one, which has as much room left.
-/

set_option autoImplicit false

namespace Persistence

variable {α : Type}

/-! ## Answers compared -/

/-- The second answer to an operation is as good as the first: it is the same success, or a
success where the first is a failure. -/
inductive CacheAnswer.Covered : CacheAnswer α → CacheAnswer α → Prop
  | truth {first second : Bool} (implied : first = true → second = true) :
      Covered (.truth first) (.truth second)
  | found {first second : Option α} (kept : ∀ value, first = some value → second = some value) :
      Covered (.found first) (.found second)
  | number {first second : Nat} (atMost : first ≤ second) :
      Covered (.number first) (.number second)
  | done : Covered .done .done

/-- The hits that an operation with the given answer is counted as. -/
def CacheOperation.hits : CacheOperation α → CacheAnswer α → Nat
  | .get _, .found (some _) => 1
  | _, _ => 0

theorem CacheOperation.hits_le (operation : CacheOperation α) {first second : CacheAnswer α}
    (covered : first.Covered second) : operation.hits first ≤ operation.hits second := by
  cases operation with
  | get key =>
      cases covered with
      | @found first second kept =>
          cases first with
          | none => exact Nat.zero_le _
          | some value =>
              obtain rfl := kept value rfl
              exact Nat.le_refl _
      | truth implied => exact Nat.le_refl _
      | number atMost => exact Nat.le_refl _
      | done => exact Nat.le_refl _
  | _ => exact Nat.zero_le _

theorem CacheOperation.sum_hits_le (operations : List (CacheOperation α))
    {first second : List (CacheAnswer α)} (covered : List.Forall₂ CacheAnswer.Covered first second) :
    (operations.zipWith hits first).sum ≤ (operations.zipWith hits second).sum := by
  induction covered generalizing operations with
  | nil => simp
  | cons firstCovered _ ih =>
      cases operations with
      | nil => exact Nat.le_refl _
      | cons operation rest =>
          simp only [List.zipWith_cons_cons, List.sum_cons]
          exact Nat.add_le_add (operation.hits_le firstCovered) (ih rest)

/-! ## Sublists -/

/-- What a filter removes from a sublist it removes from the whole list too. -/
theorem length_filter_add_le {part whole : List α} (included : part.Sublist whole)
    (kept : α → Bool) :
    (whole.filter kept).length + part.length ≤ (part.filter kept).length + whole.length := by
  have removed := included.countP_le (p := fun value => decide ¬kept value = true)
  have ofPart := part.length_eq_countP_add_countP kept
  have ofWhole := whole.length_eq_countP_add_countP kept
  rw [List.countP_eq_length_filter] at ofPart ofWhole
  omega

theorem sublist_dropLast {part whole : List α} (included : part.Sublist whole) :
    part.dropLast.Sublist whole.dropLast := by
  have behind := (included.reverse.drop 1).reverse
  simpa only [List.drop_one, List.tail_reverse, List.reverse_reverse] using behind

/-! ## Lists of two capacities -/

namespace RecencyList

/-- Whether the list takes the key in: it has the key, or room for one more. -/
def Admits (list : RecencyList α) (key : Int32) : Prop :=
  list.contains key = true ∨ list.pairs.length < list.capacity

theorem insert_of_admits {list : RecencyList α} {key : Int32} (admits : list.Admits key)
    (value : α) : list.insert key value = (true, list.withFront key value) := by
  unfold insert
  cases present : list.contains key with
  | true => rfl
  | false =>
      have room : list.pairs.length < list.capacity := by simpa [Admits, present] using admits
      simp only [Bool.false_eq_true, ↓reduceIte, room, withFront_of_absent present]

theorem insert_of_evict {list : RecencyList α} {key : Int32} (refused : ¬ list.Admits key)
    (evicts : list.policy = .evict) (value : α) :
    list.insert key value =
      ({ list with pairs := ((key, value) :: list.pairs).dropLast }.contains key,
        { list with pairs := ((key, value) :: list.pairs).dropLast }) := by
  obtain ⟨absent, full⟩ := not_or.mp refused
  rw [insert, if_neg absent, if_neg full, evicts]

theorem insert_of_refuse {list : RecencyList α} {key : Int32} (refused : ¬ list.Admits key)
    (refuses : list.policy = .refuse) (value : α) : list.insert key value = (false, list) := by
  obtain ⟨absent, full⟩ := not_or.mp refused
  rw [insert, if_neg absent, if_neg full, refuses]

/-- A key that is not taken in is turned away, or comes in front for the last one to give
way: the list stays as long as it is. -/
theorem insert_of_not_admits {list : RecencyList α} {key : Int32} (refused : ¬ list.Admits key)
    (value : α) :
    ∃ pairs, (list.insert key value).2 = { list with pairs } ∧
      pairs.Sublist ((key, value) :: list.pairs) ∧ pairs.length = list.pairs.length := by
  cases policy : list.policy with
  | evict =>
      rw [insert_of_evict refused policy]
      exact ⟨_, by rw [← policy], List.dropLast_sublist _, by simp⟩
  | refuse =>
      rw [insert_of_refuse refused policy]
      exact ⟨list.pairs, by rw [← policy], List.sublist_cons_self _ _, rfl⟩

/-- An insertion answers whether the key is there afterwards. -/
theorem insert_fst (list : RecencyList α) (key : Int32) (value : α) :
    (list.insert key value).1 = (list.insert key value).2.contains key := by
  by_cases admits : list.Admits key
  · rw [insert_of_admits admits]
    simp [contains, value?, withFront]
  · cases policy : list.policy with
    | evict => rw [insert_of_evict admits policy]
    | refuse =>
        obtain ⟨absent, -⟩ := not_or.mp admits
        rw [insert_of_refuse admits policy]
        simpa using absent

/-- A list takes any key in, unless it is full and turns new keys away, or holds nothing. -/
theorem insert_fst_eq_true_iff {list : RecencyList α}
    (bounded : list.pairs.length ≤ list.capacity) (key : Int32) (value : α) :
    (list.insert key value).1 = true ↔
      list.Admits key ∨ list.policy = .evict ∧ 0 < list.capacity := by
  by_cases admits : list.Admits key
  · simp [insert_of_admits admits, admits]
  · have full : list.capacity ≤ list.pairs.length := Nat.le_of_not_lt (not_or.mp admits).2
    cases policy : list.policy with
    | refuse => simp [insert_of_refuse admits policy, admits]
    | evict =>
        rw [insert_of_evict admits policy]
        cases held : list.pairs with
        | nil =>
            have none : list.capacity = 0 := by simpa [held] using full
            simp [contains, value?, admits, none]
        | cons last others =>
            have some : 0 < list.capacity := Nat.lt_of_lt_of_le (by simp [held]) bounded
            simp [contains, value?, some]

theorem get_fst (list : RecencyList α) (key : Int32) : (list.get key).1 = list.value? key := by
  unfold get
  cases list.value? key <;> rfl

theorem length_withFront_le_capacity {list : RecencyList α}
    (bounded : list.pairs.length ≤ list.capacity) {key : Int32} (admits : list.Admits key)
    (value : α) : (list.withFront key value).pairs.length ≤ list.capacity := by
  rcases admits with present | room
  · exact Nat.le_trans (length_withFront_le present value) bounded
  · exact Nat.le_trans (Nat.succ_le_succ (length_without_le list key)) room

theorem nodup_without {list : RecencyList α} (distinct : (list.pairs.map Prod.fst).Nodup)
    (key : Int32) : ((list.without key).pairs.map Prod.fst).Nodup :=
  distinct.sublist (List.filter_sublist.map Prod.fst)

theorem nodup_withFront {list : RecencyList α} (distinct : (list.pairs.map Prod.fst).Nodup)
    (key : Int32) (value : α) : ((list.withFront key value).pairs.map Prod.fst).Nodup := by
  refine List.nodup_cons.mpr ⟨?_, nodup_without distinct key⟩
  intro member
  obtain ⟨pair, kept, named⟩ := List.mem_map.mp member
  have other := (List.mem_filter.mp kept).2
  simp [named] at other

/-- The pairs of the smaller list stand in the larger one in the same order, and the larger
list has at least as much room left. -/
structure Within (smaller larger : RecencyList α) : Prop where
  policy : smaller.policy = larger.policy
  included : smaller.pairs.Sublist larger.pairs
  distinct : (larger.pairs.map Prod.fst).Nodup
  bounded : smaller.pairs.length ≤ smaller.capacity
  room : larger.pairs.length + smaller.capacity ≤ smaller.pairs.length + larger.capacity

namespace Within

variable {smaller larger : RecencyList α}

theorem empty {capacity greater : Nat} (capacities : capacity ≤ greater) (policy : FullPolicy) :
    Within (α := α) { capacity, policy } { capacity := greater, policy } where
  policy := rfl
  included := .slnil
  distinct := .nil
  bounded := Nat.zero_le capacity
  room := Nat.add_le_add_left capacities 0

theorem value? (within : smaller.Within larger) {key : Int32} {value : α}
    (found : smaller.value? key = some value) : larger.value? key = some value := by
  have distinct := within.distinct.sublist (within.included.map Prod.fst)
  rw [value?_eq_some_iff distinct] at found
  rw [value?_eq_some_iff within.distinct]
  exact within.included.subset found

theorem contains (within : smaller.Within larger) {key : Int32}
    (present : smaller.contains key = true) : larger.contains key = true := by
  obtain ⟨value, found⟩ := Option.isSome_iff_exists.mp present
  exact Option.isSome_iff_exists.mpr ⟨value, within.value? found⟩

theorem length_le (within : smaller.Within larger) :
    larger.pairs.length ≤ larger.capacity := by
  have bounded := within.bounded
  have room := within.room
  omega

theorem admits (within : smaller.Within larger) {key : Int32} (admitted : smaller.Admits key) :
    larger.Admits key := by
  rcases admitted with present | spare
  · exact .inl (within.contains present)
  · have room := within.room
    exact .inr (by omega)

/-! ## Changes of both lists -/

theorem without (within : smaller.Within larger) (key : Int32) :
    (smaller.without key).Within (larger.without key) where
  policy := within.policy
  included := within.included.filter _
  distinct := nodup_without within.distinct key
  bounded := Nat.le_trans (length_without_le smaller key) within.bounded
  room := by
    have removed : (larger.without key).pairs.length + smaller.pairs.length ≤
        (smaller.without key).pairs.length + larger.pairs.length :=
      length_filter_add_le within.included _
    have room := within.room
    change (larger.without key).pairs.length + smaller.capacity ≤
      (smaller.without key).pairs.length + larger.capacity
    omega

theorem withFront (within : smaller.Within larger) {key : Int32} (admits : smaller.Admits key)
    (value : α) : (smaller.withFront key value).Within (larger.withFront key value) := by
  have kept := within.without key
  constructor
  · exact within.policy
  · exact kept.included.cons_cons (key, value)
  · exact nodup_withFront within.distinct key value
  · exact length_withFront_le_capacity within.bounded admits value
  · have room := kept.room
    change (larger.without key).pairs.length + 1 + smaller.capacity ≤
      (smaller.without key).pairs.length + 1 + larger.capacity
    change (larger.without key).pairs.length + smaller.capacity ≤
      (smaller.without key).pairs.length + larger.capacity at room
    omega

/-- A key that only the larger list has comes to its front. -/
theorem withFront_larger (within : smaller.Within larger) {key : Int32}
    (present : larger.contains key = true) (absent : smaller.contains key = false) (value : α) :
    smaller.Within (larger.withFront key value) := by
  have kept := (within.without key).included
  rw [without_of_absent absent] at kept
  constructor
  · exact within.policy
  · exact kept.cons (key, value)
  · exact nodup_withFront within.distinct key value
  · exact within.bounded
  · have shorter := length_withFront_le present value
    have room := within.room
    exact Nat.le_trans (Nat.add_le_add_right shorter _) room

theorem clear (within : smaller.Within larger) :
    ({ smaller with pairs := [] } : RecencyList α).Within { larger with pairs := [] } where
  policy := within.policy
  included := .slnil
  distinct := .nil
  bounded := Nat.zero_le _
  room := by
    have room := within.room
    have shorter := within.included.length_le
    simp only [List.length_nil]
    omega

/-- Both lists are full of other keys, so that each loses its last one or neither changes. -/
theorem insert_of_refused (within : smaller.Within larger) {key : Int32}
    (refused : ¬ smaller.Admits key) (largerRefused : ¬ larger.Admits key) (value : α) :
    (smaller.insert key value).2.Within (larger.insert key value).2 := by
  cases policy : smaller.policy with
  | refuse =>
      rw [insert_of_refuse refused policy, insert_of_refuse largerRefused (within.policy ▸ policy)]
      exact within
  | evict =>
      rw [insert_of_evict refused policy, insert_of_evict largerRefused (within.policy ▸ policy)]
      obtain ⟨absent, -⟩ := not_or.mp largerRefused
      have distinct := nodup_withFront within.distinct key value
      rw [withFront_of_absent (by simpa using absent)] at distinct
      have included := sublist_dropLast (within.included.cons_cons (key, value))
      constructor
      · exact within.policy
      · exact included
      · exact distinct.sublist ((List.dropLast_sublist _).map Prod.fst)
      · simpa using within.bounded
      · simpa using within.room

/-- The smaller list is full and stays so, while the larger one takes the key in. -/
theorem insert_larger (within : smaller.Within larger) {key : Int32}
    (refused : ¬ smaller.Admits key) (admits : larger.Admits key) (value : α) :
    (smaller.insert key value).2.Within (larger.insert key value).2 := by
  obtain ⟨absent, full⟩ := not_or.mp refused
  obtain ⟨pairs, inserted, included, sameLength⟩ := insert_of_not_admits refused value
  have kept := (within.without key).included
  rw [without_of_absent (by simpa using absent)] at kept
  have fits := length_withFront_le_capacity within.length_le admits value
  have bounded := within.bounded
  rw [inserted, insert_of_admits admits]
  constructor
  · exact within.policy
  · exact included.trans (kept.cons_cons (key, value))
  · exact nodup_withFront within.distinct key value
  · exact sameLength ▸ bounded
  · change (larger.withFront key value).pairs.length + smaller.capacity ≤
      pairs.length + larger.capacity
    omega

theorem insert (within : smaller.Within larger) (key : Int32) (value : α) :
    (smaller.insert key value).2.Within (larger.insert key value).2 := by
  by_cases admits : smaller.Admits key
  · rw [insert_of_admits admits, insert_of_admits (within.admits admits)]
    exact within.withFront admits value
  · by_cases largerAdmits : larger.Admits key
    · exact within.insert_larger admits largerAdmits value
    · exact within.insert_of_refused admits largerAdmits value

/-! ## Operations on both lists -/

theorem insert_covered (within : smaller.Within larger) (key : Int32) (value : α)
    (inserted : (smaller.insert key value).1 = true) :
    (larger.insert key value).1 = true := by
  rw [insert_fst] at inserted ⊢
  exact (within.insert key value).contains inserted

theorem get (within : smaller.Within larger) (key : Int32) :
    (smaller.get key).2.Within (larger.get key).2 := by
  unfold RecencyList.get
  cases found : smaller.value? key with
  | some value =>
      rw [within.value? found]
      exact within.withFront (.inl (by simp [RecencyList.contains, found])) value
  | none =>
      cases largerFound : larger.value? key with
      | none => exact within
      | some value =>
          exact within.withFront_larger (by simp [RecencyList.contains, largerFound])
            (by simp [RecencyList.contains, found]) value

theorem perform (within : smaller.Within larger) (operation : CacheOperation α) :
    (smaller.perform operation).1.Covered (larger.perform operation).1 ∧
      (smaller.perform operation).2.Within (larger.perform operation).2 := by
  cases operation with
  | insert key value =>
      exact ⟨.truth (within.insert_covered key value), within.insert key value⟩
  | get key =>
      refine ⟨.found fun value found => ?_, within.get key⟩
      rw [get_fst] at found ⊢
      exact within.value? found
  | contains key => exact ⟨.truth within.contains, within⟩
  | remove key => exact ⟨.found fun value found => within.value? found, within.without key⟩
  | clear => exact ⟨.done, within.clear⟩
  | size => exact ⟨.number within.included.length_le, within⟩

theorem performAll (within : smaller.Within larger) (operations : List (CacheOperation α)) :
    List.Forall₂ CacheAnswer.Covered
        (performAll RecencyList.perform smaller operations).1
        (performAll RecencyList.perform larger operations).1 ∧
      (performAll RecencyList.perform smaller operations).2.Within
        (performAll RecencyList.perform larger operations).2 := by
  induction operations generalizing smaller larger with
  | nil => exact ⟨.nil, within⟩
  | cons operation rest ih =>
      obtain ⟨covered, kept⟩ := within.perform operation
      obtain ⟨othersCovered, keptLast⟩ := ih kept
      exact ⟨.cons covered othersCovered, keptLast⟩

end Within

end RecencyList

/-! ## Caches of two capacities -/

namespace Cache

@[simp] theorem statistics_drop (cache : Cache α) (key : Int32) :
    (cache.drop key).statistics = cache.statistics := by
  unfold drop
  split <;> rfl

@[simp] theorem statistics_put (cache : Cache α) (key : Int32) (value : α) :
    (cache.put key value).statistics = cache.statistics :=
  cache.statistics_drop key

@[simp] theorem hits_evictOldest (cache : Cache α) :
    cache.evictOldest.statistics.hits = cache.statistics.hits := by
  unfold evictOldest
  split <;> rfl

theorem hits_insert (cache : Cache α) (key : Int32) (value : α) :
    (cache.insert key value).2.statistics.hits = cache.statistics.hits := by
  unfold insert
  dsimp only
  split
  · simp
  · split
    · simp
    · cases cache.policy <;> simp

theorem hits_perform (cache : Cache α) (operation : CacheOperation α) :
    (cache.perform operation).2.statistics.hits =
      cache.statistics.hits + operation.hits (cache.perform operation).1 := by
  cases operation with
  | insert key value => exact cache.hits_insert key value
  | get key =>
      simp only [perform, Cache.get]
      cases cache.peek? key with
      | some entry => simp [CacheOperation.hits]
      | none => rfl
  | remove key => exact congrArg CacheStatistics.hits (cache.statistics_drop key)
  | clear => rfl
  | contains key => rfl
  | size => rfl

/-- The hits on record are those of the look-ups that found something. -/
theorem hits_performAll (cache : Cache α) (operations : List (CacheOperation α)) :
    (performAll Cache.perform cache operations).2.statistics.hits =
      cache.statistics.hits +
        (operations.zipWith CacheOperation.hits
          (performAll Cache.perform cache operations).1).sum := by
  induction operations generalizing cache with
  | nil => rfl
  | cons operation rest ih =>
      simp only [performAll, List.zipWith_cons_cons, List.sum_cons]
      rw [ih, hits_perform, Nat.add_assoc]

/-- After any operations on two new caches of one policy, the one of the greater capacity has
answered each of them at least as well, holds every value that the other one holds under the
same key, and has counted at least as many hits. -/
theorem performAll_of_capacity_le {capacity greater : Nat} (capacities : capacity ≤ greater)
    (policy : FullPolicy) (operations : List (CacheOperation α)) :
    let smaller := performAll Cache.perform (Cache.empty capacity policy) operations
    let larger := performAll Cache.perform (Cache.empty greater policy) operations
    List.Forall₂ CacheAnswer.Covered smaller.1 larger.1 ∧
      (∀ key value, smaller.2.value? key = some value → larger.2.value? key = some value) ∧
      smaller.2.statistics.hits ≤ larger.2.statistics.hits := by
  intro smaller larger
  obtain ⟨smallerAnswers, smallerKept⟩ := (Represents.empty capacity policy).performAll operations
  obtain ⟨largerAnswers, largerKept⟩ := (Represents.empty greater policy).performAll operations
  obtain ⟨covered, within⟩ :=
    (RecencyList.Within.empty (α := α) capacities policy).performAll operations
  rw [← smallerAnswers, ← largerAnswers] at covered
  refine ⟨covered, ?_, ?_⟩
  · intro key value held
    rw [value?, smallerKept.value?_eq] at held
    rw [value?, largerKept.value?_eq]
    exact within.value? held
  · rw [hits_performAll, hits_performAll]
    exact Nat.add_le_add_left (CacheOperation.sum_hits_le operations covered) 0

theorem performAll_of_capacity_le_letters :
    let operations := [.insert 1 "a", .insert 2 "b", .get 1, .remove 2, .insert 3 "c", .contains 1]
    let smaller := performAll Cache.perform (Cache.empty 1 .evict) operations
    let larger := performAll Cache.perform (Cache.empty 2 .evict) operations
    1 ≤ 2 ∧ List.Forall₂ CacheAnswer.Covered smaller.1 larger.1 ∧
      (∀ key value, smaller.2.value? key = some value → larger.2.value? key = some value) ∧
      smaller.2.statistics.hits ≤ larger.2.statistics.hits :=
  ⟨by decide, performAll_of_capacity_le (by decide) .evict _⟩

end Cache

end Persistence
