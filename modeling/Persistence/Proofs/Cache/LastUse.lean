import Persistence.Proofs.Cache.Statistics

/-!
# Ticks and last uses

What the ticks of a cache stand for. In every state that a new cache comes to, its two indexes
are inverse to each other, and the tick of an entry was given out at the last use of its key. The
entry that gives way is the first one of the second index, and so the one that has not been used
for longest.
-/

set_option autoImplicit false

namespace Persistence

variable {α : Type}

def CacheOperation.takesTick : CacheOperation α → Bool
  | .insert _ _ | .get _ => true
  | _ => false

/-! ## Indexes -/

namespace Cache

def tickOf? (cache : Cache α) (key : Int32) : Option Nat := (cache.peek? key).map CacheEntry.tick

/-- The key that the second index has for a tick. -/
def keyAt? (cache : Cache α) (tick : Nat) : Option Int32 :=
  (cache.recency.find? fun (name, _) => name == tick).map Prod.snd

/-- The indexes map keys and ticks to each other: the first one has one entry for a key, the
second one is in the order of its ticks. No tick is in use twice, and none that is still to be
given out. -/
structure IsIndexed (cache : Cache α) : Prop where
  keys : (cache.entries.map Prod.fst).Nodup
  ascending : cache.recency.Pairwise fun older newer => older.1 < newer.1
  inverse : ∀ tick key, cache.keyAt? tick = some key ↔ cache.tickOf? key = some tick
  distinct : (cache.entries.map fun slot => slot.2.tick).Nodup
  positive : ∀ slot ∈ cache.entries, 0 < slot.2.tick
  bounded : ∀ slot ∈ cache.entries, slot.2.tick ≤ cache.tick

variable {cache : Cache α} {slots : List (Slot α)} {slot : Slot α} {key : Int32} {value : α}

namespace Holds

theorem ascending (holds : cache.Holds slots) :
    cache.recency.Pairwise fun older newer => older.1 < newer.1 := by
  rw [holds.recency, List.pairwise_reverse, List.pairwise_map]
  exact holds.ordered

theorem tickOf?_eq_some_iff (holds : cache.Holds slots) {tick : Nat} :
    cache.tickOf? key = some tick ↔ (tick, key) ∈ cache.recency := by
  rw [tickOf?, Option.map_eq_some_iff, holds.recency, List.mem_reverse, List.mem_map]
  constructor
  · rintro ⟨entry, found, rfl⟩
    exact ⟨(key, entry), holds.peek?_eq_some_iff.mp found, rfl⟩
  · rintro ⟨slot, member, marked⟩
    cases marked
    exact ⟨slot.2, holds.peek?_eq_some_iff.mpr member, rfl⟩

theorem keyAt?_eq_some_iff (holds : cache.Holds slots) {tick : Nat} :
    cache.keyAt? tick = some key ↔ (tick, key) ∈ cache.recency := by
  refine RecencyList.find?_fst_eq_some_iff (List.pairwise_map.mpr (holds.ascending.imp ?_))
  intro older newer earlier
  exact Nat.ne_of_lt earlier

theorem isIndexed (holds : cache.Holds slots)
    (positive : ∀ slot ∈ cache.entries, 0 < slot.2.tick) : cache.IsIndexed where
  keys := (holds.entries.map Prod.fst).nodup_iff.mpr holds.distinct
  ascending := holds.ascending
  inverse _ _ := holds.keyAt?_eq_some_iff.trans holds.tickOf?_eq_some_iff.symm
  distinct := (holds.entries.map _).nodup_iff.mpr holds.ticks_distinct
  positive := positive
  bounded slot member := holds.bounded slot (holds.entries.mem_iff.mp member)

end Holds

/-! ## Entries and the counter after an operation -/

theorem mem_entries_drop :
    slot ∈ (cache.drop key).entries ↔ slot ∈ cache.entries ∧ slot.1 ≠ key := by
  unfold drop
  cases found : cache.peek? key with
  | none =>
      rw [peek?, Option.map_eq_none_iff, List.find?_eq_none] at found
      refine ⟨fun member => ⟨member, ?_⟩, And.left⟩
      simpa using found slot member
  | some entry => simp

theorem mem_entries_put :
    slot ∈ (cache.put key value).entries ↔
      slot = (key, ⟨value, cache.tick + 1⟩) ∨ slot ∈ cache.entries ∧ slot.1 ≠ key := by
  change slot ∈ (key, ⟨value, cache.tick + 1⟩) :: (cache.drop key).entries ↔ _
  rw [List.mem_cons, mem_entries_drop]

theorem mem_of_evictOldest (member : slot ∈ cache.evictOldest.entries) : slot ∈ cache.entries := by
  unfold evictOldest at member
  split at member
  · exact member
  · exact List.mem_of_mem_filter member

@[simp] theorem tick_drop (cache : Cache α) (key : Int32) : (cache.drop key).tick = cache.tick := by
  unfold drop
  split <;> rfl

@[simp] theorem tick_put (cache : Cache α) (key : Int32) (value : α) :
    (cache.put key value).tick = cache.tick + 1 :=
  rfl

@[simp] theorem tick_evictOldest (cache : Cache α) : cache.evictOldest.tick = cache.tick := by
  unfold evictOldest
  split <;> rfl

namespace Inserts

variable {result : Bool × Cache α}

theorem mem_put (inserts : cache.Inserts key value result) (member : slot ∈ result.2.entries) :
    slot ∈ (cache.put key value).entries := by
  cases inserts with
  | replaced present => exact member
  | added absent room => exact member
  | turnedAway absent full refuses => exact (mem_entries_drop.mp member).1
  | givenRoom absent full evicts => exact mem_of_evictOldest member

theorem tick (inserts : cache.Inserts key value result) : result.2.tick = cache.tick + 1 := by
  cases inserts with
  | replaced present => exact tick_put cache key value
  | added absent room => exact tick_put cache key value
  | turnedAway absent full refuses => exact tick_drop (cache.put key value) key
  | givenRoom absent full evicts => exact tick_evictOldest (cache.put key value)

end Inserts

theorem tick_perform (cache : Cache α) (operation : CacheOperation α) :
    (cache.perform operation).2.tick = cache.tick + operation.takesTick.toNat := by
  cases operation with
  | insert key value => exact (cache.inserts key value).tick
  | get key =>
      simp only [perform, Cache.get]
      cases cache.peek? key <;> rfl
  | remove key => exact tick_drop cache key
  | _ => rfl

theorem tick_performAll (cache : Cache α) (operations : List (CacheOperation α)) :
    (performAll Cache.perform cache operations).2.tick =
      cache.tick + operations.countP CacheOperation.takesTick := by
  induction operations generalizing cache with
  | nil => rfl
  | cons operation rest ih =>
      simp only [performAll]
      rw [ih, tick_perform, countP_cons_toNat, Nat.add_assoc]

end Cache

/-! ## Uses -/

open Cache

namespace CacheStep

/-- Whether the step inserts the key or looks it up with success. -/
def uses (step : CacheStep α) (key : Int32) : Bool :=
  match step.operation with
  | .insert name _ => name == key
  | .get name => name == key && step.isHit
  | _ => false

/-- What an entry is after the step: the same as before, of a key that the step does not use, or
one of the key that it uses, with the next tick. -/
inductive Leaves (step : CacheStep α) (slot : Slot α) : Prop
  | kept (held : slot ∈ step.cache.entries) (unused : step.uses slot.1 = false)
  | used (uses : step.uses slot.1 = true) (dated : slot.2.tick = step.cache.tick + 1)

variable {step : CacheStep α} {cache : Cache α} {slot : Slot α} {key : Int32} {value : α}

theorem isHit_get (cache : Cache α) (key : Int32) :
    isHit ⟨cache, .get key⟩ = cache.contains key := by
  simp only [isHit, answer, perform, get_fst, contains_eq]
  cases cache.value? key <;> rfl

theorem leaves_put (uses : ∀ name, step.uses name = (key == name))
    (member : slot ∈ (step.cache.put key value).entries) : step.Leaves slot := by
  rcases mem_entries_put.mp member with rfl | ⟨held, other⟩
  · exact .used (by rw [uses, beq_self_eq_true]) rfl
  · exact .kept held (by rw [uses, beq_false_of_ne (Ne.symm other)])

theorem leaves_after (member : slot ∈ step.after.entries) : step.Leaves slot := by
  obtain ⟨cache, operation⟩ := step
  cases operation with
  | insert key value =>
      exact leaves_put (fun _ => rfl) ((cache.inserts key value).mem_put member)
  | get key =>
      have hit := isHit_get cache key
      simp only [after, perform, Cache.get] at member
      cases found : cache.peek? key with
      | none =>
          rw [contains, found] at hit
          rw [found] at member
          refine .kept member ?_
          simp only [CacheStep.uses, hit, Option.isSome_none, Bool.and_false]
      | some entry =>
          rw [contains, found] at hit
          rw [found] at member
          have used : ∀ name, CacheStep.uses ⟨cache, .get key⟩ name = (key == name) := by
            intro name
            simp only [CacheStep.uses, hit, Option.isSome_some, Bool.and_true]
          exact leaves_put used member
  | remove key => exact .kept (mem_entries_drop.mp member).1 rfl
  | clear => exact absurd member List.not_mem_nil
  | contains key => exact .kept member rfl
  | size => exact .kept member rfl

end CacheStep

/-! ## Last uses -/

section History

variable {history : List (CacheStep α)} {cache : Cache α} {key : Int32} {tick : Nat}

/-- The step is the last one of the history to use the key; the others come after it. -/
structure IsLastUse (history : List (CacheStep α)) (key : Int32) (use : CacheStep α)
    (after : List (CacheStep α)) : Prop where
  split : ∃ before, history = before ++ use :: after
  uses : use.uses key = true
  since : ∀ step ∈ after, step.uses key = false

theorem IsLastUse.append {use : CacheStep α} {after : List (CacheStep α)}
    (lastUse : IsLastUse history key use after) {step : CacheStep α}
    (unused : step.uses key = false) :
    IsLastUse (history ++ [step]) key use (after ++ [step]) := by
  obtain ⟨before, split⟩ := lastUse.split
  refine ⟨⟨before, ?_⟩, lastUse.uses, ?_⟩
  · rw [split, List.append_assoc, List.cons_append]
  · intro later member
    rcases List.mem_append.mp member with earlier | last
    · exact lastUse.since later earlier
    · rwa [List.mem_singleton.mp last]

/-- Every other key of the cache has been used since the last use of this one. -/
def IsLeastRecent (history : List (CacheStep α)) (cache : Cache α) (key : Int32) : Prop :=
  ∃ use after, IsLastUse history key use after ∧
    ∀ other, cache.contains other = true → other ≠ key → ∃ step ∈ after, step.uses other = true

/-- The history has led to the cache: its ticks went up, and each entry has the one that the
last use of its key was given. -/
structure LeadsTo (history : List (CacheStep α)) (cache : Cache α) : Prop where
  held : ∃ slots, cache.Holds slots
  ordered : history.Pairwise fun earlier later => earlier.cache.tick ≤ later.cache.tick
  behind : ∀ step ∈ history, step.cache.tick ≤ cache.tick
  dated : ∀ slot ∈ cache.entries, ∃ use after, IsLastUse history slot.1 use after ∧
    slot.2.tick = use.cache.tick + 1

namespace LeadsTo

theorem empty (capacity : Nat) (policy : FullPolicy) :
    LeadsTo [] (Cache.empty capacity policy : Cache α) where
  held := ⟨[], .nil rfl rfl⟩
  ordered := .nil
  behind _ member := absurd member List.not_mem_nil
  dated _ member := absurd member List.not_mem_nil

theorem append (leadsTo : LeadsTo history cache) (operation : CacheOperation α) {later : Cache α}
    (held : ∃ slots, later.Holds slots) (advanced : cache.tick ≤ later.tick)
    (leaves : ∀ slot ∈ later.entries, CacheStep.Leaves ⟨cache, operation⟩ slot) :
    LeadsTo (history ++ [⟨cache, operation⟩]) later := by
  constructor
  · exact held
  · refine List.pairwise_append.mpr ⟨leadsTo.ordered, List.pairwise_singleton _ _, ?_⟩
    intro earlier member last isLast
    rw [List.mem_singleton.mp isLast]
    exact leadsTo.behind earlier member
  · intro step member
    rcases List.mem_append.mp member with earlier | last
    · exact Nat.le_trans (leadsTo.behind step earlier) advanced
    · rw [List.mem_singleton.mp last]
      exact advanced
  · intro slot member
    cases leaves slot member with
    | kept present unused =>
        obtain ⟨use, after, lastUse, dated⟩ := leadsTo.dated slot present
        exact ⟨use, _, lastUse.append unused, dated⟩
    | used uses dated => exact ⟨_, [], ⟨⟨history, rfl⟩, uses, List.forall_mem_nil _⟩, dated⟩

theorem perform (leadsTo : LeadsTo history cache) (operation : CacheOperation α) :
    LeadsTo (history ++ [⟨cache, operation⟩]) (cache.perform operation).2 := by
  have governed : cache.Governed cache.policy := ⟨rfl, leadsTo.held⟩
  apply leadsTo.append operation (governed.perform operation).held
  · rw [tick_perform]
    exact Nat.le_add_right _ _
  · intro slot member
    exact CacheStep.leaves_after member

theorem performAll (leadsTo : LeadsTo history cache) (operations : List (CacheOperation α)) :
    LeadsTo (history ++ cache.steps operations)
      (performAll Cache.perform cache operations).2 := by
  induction operations generalizing history cache with
  | nil =>
      rw [steps, List.append_nil]
      exact leadsTo
  | cons operation rest ih =>
      have others := ih (leadsTo.perform operation)
      rwa [List.append_assoc] at others

theorem isIndexed (leadsTo : LeadsTo history cache) : cache.IsIndexed := by
  obtain ⟨slots, holds⟩ := leadsTo.held
  apply holds.isIndexed
  intro slot member
  obtain ⟨use, after, -, dated⟩ := leadsTo.dated slot member
  rw [dated]
  exact Nat.succ_pos _

theorem used_since (leadsTo : LeadsTo history cache) {use : CacheStep α}
    {after : List (CacheStep α)} (lastUse : IsLastUse history key use after) {slot : Slot α}
    (member : slot ∈ cache.entries) (later : use.cache.tick + 1 < slot.2.tick) :
    ∃ step ∈ after, step.uses slot.1 = true := by
  obtain ⟨newer, _, newerUse, dated⟩ := leadsTo.dated slot member
  obtain ⟨before, split⟩ := lastUse.split
  obtain ⟨_, newerSplit⟩ := newerUse.split
  have inHistory : newer ∈ history := by
    rw [newerSplit]
    exact List.mem_append_right _ List.mem_cons_self
  have ordered := leadsTo.ordered
  rw [split] at inHistory ordered
  rcases List.mem_append.mp inHistory with earlier | notEarlier
  · -- Ticks only go up: no step before the use was given the later one.
    have behind := (List.pairwise_append.mp ordered).2.2 newer earlier use List.mem_cons_self
    omega
  · rcases List.mem_cons.mp notEarlier with rfl | since
    · omega
    · exact ⟨newer, since, newerUse.uses⟩

/-- The key at the front of the second index has an entry, and was used before all others. -/
theorem oldest (leadsTo : LeadsTo history cache) {younger : List (Nat × Int32)}
    (listed : cache.recency = (tick, key) :: younger) :
    cache.contains key = true ∧ IsLeastRecent history cache key := by
  obtain ⟨slots, holds⟩ := leadsTo.held
  have ascending := holds.ascending
  have front : cache.tickOf? key = some tick := by
    rw [holds.tickOf?_eq_some_iff, listed]
    exact List.mem_cons_self
  obtain ⟨entry, found, rfl⟩ := Option.map_eq_some_iff.mp front
  have member : (key, entry) ∈ cache.entries :=
    holds.entries.mem_iff.mpr (holds.peek?_eq_some_iff.mp found)
  refine ⟨by rw [contains, found]; rfl, ?_⟩
  obtain ⟨use, after, lastUse, dated⟩ := leadsTo.dated (key, entry) member
  refine ⟨use, after, lastUse, ?_⟩
  intro other present different
  obtain ⟨otherEntry, otherFound⟩ := Option.isSome_iff_exists.mp present
  have otherListed : (otherEntry.tick, other) ∈ cache.recency :=
    holds.tickOf?_eq_some_iff.mp (Option.map_eq_some_iff.mpr ⟨otherEntry, otherFound, rfl⟩)
  rw [listed] at ascending otherListed
  have isYounger : (otherEntry.tick, other) ∈ younger := by
    rcases List.mem_cons.mp otherListed with same | isYounger
    · exact absurd (congrArg Prod.snd same) different
    · exact isYounger
  have later := (List.pairwise_cons.mp ascending).1 _ isYounger
  have otherMember := holds.entries.mem_iff.mpr (holds.peek?_eq_some_iff.mp otherFound)
  rw [dated] at later
  exact leadsTo.used_since lastUse otherMember later

end LeadsTo

end History

/-! ## Entries that give way -/

namespace Cache

/-- The insertion of the key makes an entry give way. -/
structure Overflows (cache : Cache α) (key : Int32) (value : α) : Prop where
  evicts : cache.policy = .evict
  absent : cache.contains key = false
  full : cache.capacity < (cache.put key value).size

/-- The insertion puts the new entry in and takes the front pair off the second index again. The
key of the pair, the victim, is that of an entry, which goes; of all entries it is the one whose
last use is the oldest. -/
structure GivesWay (history : List (CacheStep α)) (cache : Cache α) (key : Int32) (value : α)
    (tick : Nat) (victim : Int32) : Prop where
  popped : (cache.put key value).recency = (tick, victim) :: (cache.insert key value).2.recency
  removed : (cache.insert key value).2.entries = Slot.others victim (cache.put key value).entries
  present : (cache.put key value).contains victim = true
  oldest : IsLeastRecent (history ++ [⟨cache, .insert key value⟩]) (cache.put key value) victim

theorem insert_of_overflows {cache : Cache α} {key : Int32} {value : α}
    (overflows : cache.Overflows key value) :
    (cache.insert key value).2 = (cache.put key value).evictOldest := by
  have full := Nat.not_le_of_lt overflows.full
  simp only [insert, overflows.absent, full, overflows.evicts, Bool.false_eq_true, ↓reduceIte]

theorem exists_givesWay {history : List (CacheStep α)} {cache : Cache α} {key : Int32} {value : α}
    (leadsTo : LeadsTo history cache) (overflows : cache.Overflows key value) :
    ∃ tick victim, cache.GivesWay history key value tick victim := by
  obtain ⟨slots, holds⟩ := leadsTo.held
  have extended : LeadsTo (history ++ [⟨cache, .insert key value⟩]) (cache.put key value) := by
    apply leadsTo.append (.insert key value) ⟨_, holds.put key value⟩ (Nat.le_succ _)
    intro slot member
    exact CacheStep.leaves_put (fun _ => rfl) member
  have inserted := insert_of_overflows overflows
  have nonempty : (cache.put key value).recency ≠ [] :=
    List.append_ne_nil_of_right_ne_nil _ (List.cons_ne_nil _ _)
  obtain ⟨⟨tick, victim⟩, younger, listed⟩ := List.exists_cons_of_ne_nil nonempty
  obtain ⟨present, oldest⟩ := extended.oldest listed
  rw [evictOldest, listed] at inserted
  refine ⟨tick, victim, ?_, ?_, present, oldest⟩
  · rw [inserted, listed]
  · rw [inserted]
    rfl

/-- Whatever is done to a new cache, its indexes are inverse to each other, and the counter of its
ticks is the number of insertions and look-ups. When the next insertion makes an entry give way,
then the one whose last use is the oldest. -/
theorem isIndexed_performAll (capacity : Nat) (policy : FullPolicy)
    (operations : List (CacheOperation α)) :
    let history := (Cache.empty capacity policy).steps operations
    let cache := (performAll Cache.perform (Cache.empty capacity policy) operations).2
    cache.IsIndexed ∧ cache.tick = operations.countP CacheOperation.takesTick ∧
      ∀ key value, cache.Overflows key value →
        ∃ tick victim, cache.GivesWay history key value tick victim := by
  intro history cache
  have leadsTo : LeadsTo history cache := (LeadsTo.empty capacity policy).performAll operations
  refine ⟨leadsTo.isIndexed, ?_, ?_⟩
  · have counted := (Cache.empty capacity policy : Cache α).tick_performAll operations
    exact counted.trans (Nat.zero_add _)
  · intro key value overflows
    exact exists_givesWay leadsTo overflows

/-- The key that came in last gives way, as the one before it has been looked up since. -/
theorem isIndexed_performAll_letters :
    let operations := [.insert 1 "a", .insert 2 "b", .get 1]
    let history := (Cache.empty 2 .evict).steps operations
    let cache := (performAll Cache.perform (Cache.empty 2 .evict) operations).2
    cache.Overflows 3 "c" ∧ cache.GivesWay history 3 "c" 2 2 := by
  intro operations history cache
  have overflows : cache.Overflows 3 "c" := ⟨rfl, by decide, by decide⟩
  obtain ⟨tick, victim, givesWay⟩ :=
    (isIndexed_performAll 2 .evict operations).2.2 3 "c" overflows
  have listed : (cache.put 3 "c").recency = [(2, 2), (3, 1), (4, 3)] := by decide
  have popped := givesWay.popped
  rw [listed] at popped
  cases popped
  exact ⟨overflows, givesWay⟩

end Cache

end Persistence
