import Persistence.Proofs.Cache.RecencyList

/-!
# Caches are recency lists

The two indexes of a cache hold one list of slots: the first index holds them by key, the
second by tick. Every operation keeps the indexes in step, and so a cache answers as the list
of its slots, ticks left out, does.
-/

set_option autoImplicit false

namespace Persistence

variable {α : Type}

namespace Cache

/-! ## Slots -/

abbrev Slot (α : Type) := Int32 × CacheEntry α

def Slot.pair (slot : Slot α) : Int32 × α := (slot.1, slot.2.value)

def Slot.mark (slot : Slot α) : Nat × Int32 := (slot.2.tick, slot.1)

def Slot.others (key : Int32) (slots : List (Slot α)) : List (Slot α) :=
  slots.filter fun (name, _) => name != key

/-- Both indexes of the cache hold the slots, given from the most to the least recently used:
the first by key in any order, the second by tick from the oldest on. No tick that is in use
is still to be given out. -/
structure Holds (cache : Cache α) (slots : List (Slot α)) : Prop where
  entries : cache.entries.Perm slots
  recency : cache.recency = (slots.map Slot.mark).reverse
  distinct : (slots.map Prod.fst).Nodup
  ordered : slots.Pairwise fun newer older => older.2.tick < newer.2.tick
  bounded : ∀ slot ∈ slots, slot.2.tick ≤ cache.tick

/-! ## Look-ups -/

/-- Where keys are distinct, the order of slots makes no difference to a look-up. -/
theorem find?_perm {left right : List (Slot α)} (permuted : left.Perm right)
    (distinct : (right.map Prod.fst).Nodup) (key : Int32) :
    left.find? (fun (name, _) => name == key) = right.find? (fun (name, _) => name == key) := by
  induction permuted with
  | nil => rfl
  | cons slot permuted ih =>
      rw [List.find?_cons, List.find?_cons, ih (List.nodup_cons.mp distinct).2]
  | swap first second rest =>
      have different : first.1 ≠ second.1 := by
        intro same
        exact (List.nodup_cons.mp distinct).1 (by simp [same])
      by_cases named : first.1 = key
      · have other : second.1 ≠ key := fun same => different (named.trans same.symm)
        simp [named, other]
      · simp [List.find?_cons, named]
  | trans leftPermuted rightPermuted leftIH rightIH =>
      have middleDistinct := (rightPermuted.map Prod.fst).nodup_iff.mpr distinct
      rw [leftIH middleDistinct, rightIH distinct]

namespace Holds

variable {cache : Cache α} {slots : List (Slot α)}

theorem peek?_eq (holds : cache.Holds slots) (key : Int32) :
    cache.peek? key = (slots.find? fun (name, _) => name == key).map Prod.snd := by
  rw [peek?, find?_perm holds.entries holds.distinct]

theorem size_eq (holds : cache.Holds slots) : cache.size = slots.length :=
  holds.entries.length_eq

theorem filter_eq_self (holds : cache.Holds slots) {key : Int32}
    (absent : cache.peek? key = none) :
    Slot.others key slots = slots := by
  rw [holds.peek?_eq, Option.map_eq_none_iff, List.find?_eq_none] at absent
  refine List.filter_eq_self.mpr fun slot member => ?_
  simpa using absent slot member

theorem peek?_eq_some_iff (holds : cache.Holds slots) {key : Int32} {entry : CacheEntry α} :
    cache.peek? key = some entry ↔ (key, entry) ∈ slots := by
  rw [holds.peek?_eq, RecencyList.find?_fst_eq_some_iff holds.distinct]

theorem ticks_distinct (holds : cache.Holds slots) :
    (slots.map fun slot => slot.2.tick).Nodup := by
  refine List.pairwise_map.mpr (holds.ordered.imp ?_)
  intro newer older later
  exact Nat.ne_of_gt later

/-- The same slots hold a cache that differs in nothing but its statistics and has given out
no fewer ticks. -/
theorem congr (holds : cache.Holds slots) {other : Cache α}
    (entries : other.entries = cache.entries) (recency : other.recency = cache.recency)
    (later : cache.tick ≤ other.tick) : other.Holds slots where
  entries := entries ▸ holds.entries
  recency := recency ▸ holds.recency
  distinct := holds.distinct
  ordered := holds.ordered
  bounded slot member := Nat.le_trans (holds.bounded slot member) later

/-! ## Changes -/

theorem nil (unnamed : cache.entries = []) (unlisted : cache.recency = []) :
    cache.Holds [] where
  entries := .of_eq unnamed
  recency := unlisted
  distinct := .nil
  ordered := .nil
  bounded _ member := absurd member List.not_mem_nil

/-- Dropping a key drops its slot from both indexes: the tick of the entry is the tick of no
other slot. -/
theorem drop (holds : cache.Holds slots) (key : Int32) :
    (cache.drop key).Holds (Slot.others key slots) := by
  unfold Cache.drop
  cases found : cache.peek? key with
  | none =>
      rw [holds.filter_eq_self found]
      exact holds
  | some entry =>
      have present := holds.peek?_eq_some_iff.mp found
      have kept : (Slot.others key slots).Sublist slots := List.filter_sublist
      have marked : ∀ slot ∈ slots, (slot.2.tick != entry.tick) = (slot.1 != key) := by
        intro slot member
        have sameTick : slot.2.tick = entry.tick → slot = (key, entry) :=
          fun same => List.inj_on_of_nodup_map holds.ticks_distinct member present same
        have sameKey : slot.1 = key → slot = (key, entry) :=
          fun same => List.inj_on_of_nodup_map holds.distinct member present same
        rw [Bool.eq_iff_iff, bne_iff_ne, bne_iff_ne]
        exact not_congr ⟨fun same => by rw [sameTick same], fun same => by rw [sameKey same]⟩
      constructor
      · exact holds.entries.filter _
      · dsimp only
        rw [holds.recency, List.filter_reverse, List.filter_map]
        exact congrArg (fun slots => (List.map Slot.mark slots).reverse)
          (List.filter_congr marked)
      · exact holds.distinct.sublist (kept.map Prod.fst)
      · exact holds.ordered.sublist kept
      · exact fun slot member => holds.bounded slot (kept.subset member)

theorem put (holds : cache.Holds slots) (key : Int32) (value : α) :
    (cache.put key value).Holds
      ((key, ⟨value, cache.tick + 1⟩) :: Slot.others key slots) := by
  have kept := holds.drop key
  constructor
  · exact kept.entries.cons _
  · rw [List.map_cons, List.reverse_cons, ← kept.recency]
    rfl
  · refine List.nodup_cons.mpr ⟨?_, kept.distinct⟩
    intro member
    obtain ⟨slot, kept, named⟩ := List.mem_map.mp member
    have other := (List.mem_filter.mp kept).2
    simp [named] at other
  · refine List.pairwise_cons.mpr ⟨?_, kept.ordered⟩
    intro slot member
    exact Nat.lt_succ_of_le (holds.bounded slot (List.mem_of_mem_filter member))
  · intro slot member
    rcases List.mem_cons.mp member with rfl | older
    · exact Nat.le_refl _
    · exact Nat.le_succ_of_le (holds.bounded slot (List.mem_of_mem_filter older))

/-- The first entry of the second index is the last slot. -/
theorem evictOldest (holds : cache.Holds slots) : cache.evictOldest.Holds slots.dropLast := by
  have listed := holds.recency
  unfold Cache.evictOldest
  rcases List.eq_nil_or_concat slots with rfl | ⟨newer, oldest, rfl⟩
  · have unlisted : cache.recency = [] := listed
    rw [unlisted]
    exact holds
  · rw [List.concat_eq_append] at holds listed ⊢
    have split : cache.recency = oldest.mark :: (newer.map Slot.mark).reverse := by
      simpa using listed
    have removed : Slot.others oldest.1 (newer ++ [oldest]) = newer := by
      have distinct := holds.distinct
      rw [List.map_append, List.map_singleton, List.nodup_append] at distinct
      rw [Slot.others, List.filter_append, List.filter_eq_self.mpr]
      · simp
      · intro slot member
        simpa using distinct.2.2 slot.1 (List.mem_map_of_mem member) oldest.1 (by simp)
    rw [split, List.dropLast_concat]
    constructor
    · refine List.Perm.trans ?_ (.of_eq removed)
      exact holds.entries.filter _
    · rfl
    · exact holds.distinct.sublist ((List.sublist_append_left newer _).map Prod.fst)
    · exact holds.ordered.sublist (List.sublist_append_left newer _)
    · exact fun slot member => holds.bounded slot (List.mem_append_left _ member)

end Holds

/-! ## Contents -/

/-- The keys with their values from the most to the least recently used, as the second index
lists them and the first one finds them. -/
def contents (cache : Cache α) : List (Int32 × α) :=
  cache.recency.reverse.filterMap fun (_, key) =>
    (cache.peek? key).map fun entry => (key, entry.value)

theorem Holds.contents_eq {cache : Cache α} {slots : List (Slot α)}
    (holds : cache.Holds slots) : cache.contents = slots.map Slot.pair := by
  rw [contents, holds.recency, List.reverse_reverse, List.filterMap_map,
    ← List.filterMap_eq_map]
  refine List.filterMap_congr fun slot member => ?_
  have found : cache.peek? slot.1 = some slot.2 := holds.peek?_eq_some_iff.mpr member
  simp [Slot.mark, Slot.pair, found]

/-! ## Operations -/

/-- The cache has the capacity, the policy, and slot for slot the pairs of the list. -/
structure Represents (cache : Cache α) (list : RecencyList α) : Prop where
  capacity : cache.capacity = list.capacity
  policy : cache.policy = list.policy
  held : ∃ slots, cache.Holds slots ∧ list.pairs = slots.map Slot.pair

@[simp] theorem drop_capacity (cache : Cache α) (key : Int32) :
    (cache.drop key).capacity = cache.capacity := by
  unfold drop
  split <;> rfl

@[simp] theorem drop_policy (cache : Cache α) (key : Int32) :
    (cache.drop key).policy = cache.policy := by
  unfold drop
  split <;> rfl

@[simp] theorem evictOldest_capacity (cache : Cache α) :
    cache.evictOldest.capacity = cache.capacity := by
  unfold evictOldest
  split <;> rfl

@[simp] theorem evictOldest_policy (cache : Cache α) :
    cache.evictOldest.policy = cache.policy := by
  unfold evictOldest
  split <;> rfl

namespace Represents

variable {cache : Cache α} {list : RecencyList α}

theorem empty (capacity : Nat) (policy : FullPolicy) :
    (Cache.empty capacity policy : Cache α).Represents { capacity, policy } :=
  ⟨rfl, rfl, [], .nil rfl rfl, rfl⟩

theorem value?_eq (represents : cache.Represents list) (key : Int32) :
    (cache.peek? key).map CacheEntry.value = list.value? key := by
  obtain ⟨slots, holds, pairs⟩ := represents.held
  rw [holds.peek?_eq, RecencyList.value?, pairs, List.find?_map, Option.map_map,
    Option.map_map]
  rfl

theorem contains_eq (represents : cache.Represents list) (key : Int32) :
    cache.contains key = list.contains key := by
  rw [Cache.contains, RecencyList.contains, ← represents.value?_eq, Option.isSome_map]

theorem size_eq (represents : cache.Represents list) : cache.size = list.pairs.length := by
  obtain ⟨slots, holds, pairs⟩ := represents.held
  rw [holds.size_eq, pairs, List.length_map]

theorem contents_eq (represents : cache.Represents list) : cache.contents = list.pairs := by
  obtain ⟨slots, holds, pairs⟩ := represents.held
  rw [holds.contents_eq, pairs]

theorem entries_perm (represents : cache.Represents list) :
    (cache.entries.map Slot.pair).Perm list.pairs := by
  obtain ⟨slots, holds, pairs⟩ := represents.held
  rw [pairs]
  exact holds.entries.map Slot.pair

/-- What has happened to a cache and which tick is next are no part of what it represents. -/
theorem congr (represents : cache.Represents list) {tick : Nat} (later : cache.tick ≤ tick)
    (statistics : CacheStatistics) :
    { cache with tick, statistics }.Represents list := by
  obtain ⟨slots, holds, pairs⟩ := represents.held
  exact ⟨represents.capacity, represents.policy, slots, holds.congr rfl rfl later, pairs⟩

theorem clear (represents : cache.Represents list) :
    cache.clear.Represents { list with pairs := [] } :=
  ⟨represents.capacity, represents.policy, [], .nil rfl rfl, rfl⟩

theorem drop (represents : cache.Represents list) (key : Int32) :
    (cache.drop key).Represents (list.without key) := by
  obtain ⟨slots, holds, pairs⟩ := represents.held
  refine ⟨?_, ?_, _, holds.drop key, ?_⟩
  · rw [drop_capacity, represents.capacity]
    rfl
  · rw [drop_policy, represents.policy]
    rfl
  · rw [RecencyList.without, pairs, List.filter_map]
    rfl

theorem put (represents : cache.Represents list) (key : Int32) (value : α) :
    (cache.put key value).Represents (list.withFront key value) := by
  obtain ⟨slots, holds, pairs⟩ := represents.held
  have dropped := represents.drop key
  refine ⟨dropped.capacity, dropped.policy, _, holds.put key value, ?_⟩
  rw [RecencyList.withFront, RecencyList.without, pairs, List.filter_map, List.map_cons]
  rfl

theorem evictOldest (represents : cache.Represents list) :
    cache.evictOldest.Represents { list with pairs := list.pairs.dropLast } := by
  obtain ⟨slots, holds, pairs⟩ := represents.held
  refine ⟨?_, ?_, _, holds.evictOldest, ?_⟩
  · rw [evictOldest_capacity, represents.capacity]
  · rw [evictOldest_policy, represents.policy]
  · rw [pairs, List.map_dropLast]

/-- An insertion answers as the list does: the new entry that is dropped again leaves no
trace. -/
theorem insert (represents : cache.Represents list) (key : Int32) (value : α) :
    (cache.insert key value).1 = (list.insert key value).1 ∧
      (cache.insert key value).2.Represents (list.insert key value).2 := by
  have extended := represents.put key value
  unfold Cache.insert RecencyList.insert
  rw [represents.contains_eq]
  cases present : list.contains key with
  | true => exact ⟨rfl, extended⟩
  | false =>
      have size := extended.size_eq
      rw [RecencyList.withFront_of_absent present value] at extended size
      rw [List.length_cons] at size
      by_cases room : list.pairs.length < list.capacity
      · have fits : (cache.put key value).size ≤ cache.capacity := by
          rw [size, represents.capacity]
          exact room
        simp only [fits, room, Bool.false_eq_true, ↓reduceIte, true_and]
        exact extended
      · have full : ¬ (cache.put key value).size ≤ cache.capacity := by
          rw [size, represents.capacity]
          exact room
        simp only [full, room, Bool.false_eq_true, ↓reduceIte, represents.policy]
        cases policy : list.policy with
        | evict =>
            have kept := extended.evictOldest
            rw [policy] at kept
            exact ⟨kept.contains_eq key, kept⟩
        | refuse =>
            have kept := extended.drop key
            rw [RecencyList.without_front_of_absent present value] at kept
            exact ⟨rfl, kept.congr (Nat.le_refl _) _⟩

theorem get (represents : cache.Represents list) (key : Int32) :
    (cache.get key).1 = (list.get key).1 ∧
      (cache.get key).2.Represents (list.get key).2 := by
  have value := represents.value?_eq key
  unfold Cache.get RecencyList.get
  rw [← value]
  cases cache.peek? key with
  | none => exact ⟨rfl, represents.congr (Nat.le_succ _) _⟩
  | some entry => exact ⟨rfl, (represents.put key entry.value).congr (Nat.le_refl _) _⟩

/-- Every operation answers as the list does and leaves the list behind. -/
theorem perform (represents : cache.Represents list) (operation : CacheOperation α) :
    (cache.perform operation).1 = (list.perform operation).1 ∧
      (cache.perform operation).2.Represents (list.perform operation).2 := by
  cases operation with
  | insert key value =>
      obtain ⟨answered, kept⟩ := represents.insert key value
      exact ⟨congrArg CacheAnswer.truth answered, kept⟩
  | get key =>
      obtain ⟨answered, kept⟩ := represents.get key
      exact ⟨congrArg CacheAnswer.found answered, kept⟩
  | contains key => exact ⟨congrArg CacheAnswer.truth (represents.contains_eq key), represents⟩
  | remove key => exact ⟨congrArg CacheAnswer.found (represents.value?_eq key), represents.drop key⟩
  | clear => exact ⟨rfl, represents.clear⟩
  | size => exact ⟨congrArg CacheAnswer.number represents.size_eq, represents⟩

theorem performAll (represents : cache.Represents list)
    (operations : List (CacheOperation α)) :
    (performAll Cache.perform cache operations).1 =
        (performAll RecencyList.perform list operations).1 ∧
      (performAll Cache.perform cache operations).2.Represents
        (performAll RecencyList.perform list operations).2 := by
  induction operations generalizing cache list with
  | nil => exact ⟨rfl, represents⟩
  | cons operation rest ih =>
      obtain ⟨answered, kept⟩ := represents.perform operation
      obtain ⟨othersAnswered, keptLast⟩ := ih kept
      exact ⟨congrArg₂ List.cons answered othersAnswered, keptLast⟩

end Represents

/-- Whatever is done to a new cache, it answers as a recency list of its capacity and policy
does; its two indexes hold what the list holds, the second one in the order of the list, and
never more than the capacity. -/
theorem performAll_empty (capacity : Nat) (policy : FullPolicy)
    (operations : List (CacheOperation α)) :
    let cached := performAll Cache.perform (Cache.empty capacity policy) operations
    let listed := performAll RecencyList.perform { capacity, policy } operations
    cached.1 = listed.1 ∧ cached.2.contents = listed.2.pairs ∧
      (cached.2.entries.map Slot.pair).Perm listed.2.pairs ∧
      listed.2.pairs.length ≤ capacity := by
  have begun : ({ capacity, policy } : RecencyList α).pairs.length ≤
      ({ capacity, policy } : RecencyList α).capacity := Nat.zero_le capacity
  have bounded := RecencyList.length_performAll_le begun operations
  obtain ⟨answered, represents⟩ := (Represents.empty capacity policy).performAll operations
  exact ⟨answered, represents.contents_eq, represents.entries_perm, bounded⟩

example :
    (performAll Cache.perform (Cache.empty 2 .evict)
      [.insert 1 "a", .insert 2 "b", .get 1, .insert 3 "c", .get 2, .get 1]).1 =
      [.truth true, .truth true, .found (some "a"), .truth true, .found none,
        .found (some "a")] := by
  decide

end Cache

end Persistence
