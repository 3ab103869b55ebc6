import Persistence.Number.Binary

/-!
# Instance caches

A cache of bounded size that knows how recently each entry was used. Every insertion and
every look-up takes the next tick of a counter; an entry holds the tick of its last use, and
a second index lists the ticks in use with their keys, oldest first.
-/

set_option autoImplicit false

namespace Persistence

/-- What a full cache does with a new key. -/
inductive FullPolicy where
  /-- Drops the entry that has gone unused for longest. -/
  | evict
  /-- Turns the new key away. -/
  | refuse
deriving DecidableEq, Repr

/-- What has happened to a cache. -/
structure CacheStatistics where
  hits : Nat := 0
  misses : Nat := 0
  evictions : Nat := 0
  refusals : Nat := 0
deriving DecidableEq, Repr

/-- The share of look-ups that found an entry, zero before the first one. -/
def CacheStatistics.hitRate (statistics : CacheStatistics) : Binary64 :=
  let total := statistics.hits + statistics.misses
  if total = 0 then .nearest .double false 0 1 else .nearest .double false statistics.hits total

structure CacheEntry (α : Type) where
  value : α
  tick : Nat
deriving DecidableEq, Repr

/-- A cache of values by 32-bit keys. -/
structure Cache (α : Type) where
  capacity : Nat
  policy : FullPolicy
  /-- The entries, one for a key. -/
  entries : List (Int32 × CacheEntry α) := []
  /-- The ticks in use with their keys, oldest first. -/
  recency : List (Nat × Int32) := []
  tick : Nat := 0
  statistics : CacheStatistics := {}
deriving DecidableEq, Repr

namespace Cache

variable {α : Type}

def empty (capacity : Nat) (policy : FullPolicy) : Cache α := { capacity, policy }

/-- The entry of a key, without taking note of its use. -/
def peek? (cache : Cache α) (key : Int32) : Option (CacheEntry α) :=
  (cache.entries.find? fun (name, _) => name == key).map Prod.snd

/-- Whether the key has an entry, without taking note of its use. -/
def contains (cache : Cache α) (key : Int32) : Bool := (cache.peek? key).isSome

def size (cache : Cache α) : Nat := cache.entries.length

def isEmpty (cache : Cache α) : Bool := cache.entries.isEmpty

/-- Drops the entry of a key, if there is one, from both indexes. -/
def drop (cache : Cache α) (key : Int32) : Cache α :=
  match cache.peek? key with
  | none => cache
  | some entry =>
      { cache with
        entries := cache.entries.filter fun (name, _) => name != key
        recency := cache.recency.filter fun (tick, _) => tick != entry.tick }

/-- Puts a value under a key with the next tick, in place of an entry of the key. -/
def put (cache : Cache α) (key : Int32) (value : α) : Cache α :=
  let kept := cache.drop key
  let tick := cache.tick + 1
  { kept with
    entries := (key, ⟨value, tick⟩) :: kept.entries
    recency := kept.recency ++ [(tick, key)]
    tick := tick }

/-- Drops the entry that was used least recently: the first one of the second index. -/
def evictOldest (cache : Cache α) : Cache α :=
  match cache.recency with
  | [] => cache
  | (_, victim) :: younger =>
      { cache with
        entries := cache.entries.filter fun (name, _) => name != victim
        recency := younger
        statistics := { cache.statistics with evictions := cache.statistics.evictions + 1 } }

/-- Inserts a value. An entry of the key is replaced at any size; a new key that finds the
cache full is turned away, or the oldest entry makes room, the new one itself if nothing fits.
The answer is whether the key has an entry afterwards. -/
def insert (cache : Cache α) (key : Int32) (value : α) : Bool × Cache α :=
  let extended := cache.put key value
  if cache.contains key then (true, extended)
  else if extended.size ≤ cache.capacity then (true, extended)
  else
    match cache.policy with
    | .refuse =>
        let kept := extended.drop key
        (false,
          { kept with
            statistics := { kept.statistics with refusals := kept.statistics.refusals + 1 } })
    | .evict =>
        let kept := extended.evictOldest
        (kept.contains key, kept)

def get (cache : Cache α) (key : Int32) : Option α × Cache α :=
  match cache.peek? key with
  | some entry =>
      let used := cache.put key entry.value
      (some entry.value,
        { used with statistics := { used.statistics with hits := used.statistics.hits + 1 } })
  | none =>
      (none,
        { cache with
          tick := cache.tick + 1
          statistics := { cache.statistics with misses := cache.statistics.misses + 1 } })

def remove (cache : Cache α) (key : Int32) : Option α × Cache α :=
  ((cache.peek? key).map CacheEntry.value, cache.drop key)

/-- Removes every entry. What has happened stays on record. -/
def clear (cache : Cache α) : Cache α := { cache with entries := [], recency := [] }

end Cache

end Persistence
