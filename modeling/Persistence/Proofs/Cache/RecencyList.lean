import Mathlib.Data.List.Nodup
import Persistence.Session.Cache

/-!
# Recency lists

What a cache is to its users: a bounded list of keys with their values, the one used last in
front. The operations of a cache are those of the list; ticks and indexes do not appear.
-/

set_option autoImplicit false

namespace Persistence

variable {α : Type}

/-! ## Operations -/

inductive CacheOperation (α : Type) where
  | insert (key : Int32) (value : α)
  | get (key : Int32)
  | contains (key : Int32)
  | remove (key : Int32)
  | clear
  | size
deriving DecidableEq, Repr

inductive CacheAnswer (α : Type) where
  | truth (value : Bool)
  | found (value : Option α)
  | number (value : Nat)
  | done
deriving DecidableEq, Repr

/-- The answers to operations performed one after the other, and the state behind the last. -/
def performAll {σ : Type} (perform : σ → CacheOperation α → CacheAnswer α × σ) :
    σ → List (CacheOperation α) → List (CacheAnswer α) × σ
  | state, [] => ([], state)
  | state, operation :: rest =>
      ((perform state operation).1 :: (performAll perform (perform state operation).2 rest).1,
        (performAll perform (perform state operation).2 rest).2)

def Cache.perform (cache : Cache α) : CacheOperation α → CacheAnswer α × Cache α
  | .insert key value => (.truth (cache.insert key value).1, (cache.insert key value).2)
  | .get key => (.found (cache.get key).1, (cache.get key).2)
  | .contains key => (.truth (cache.contains key), cache)
  | .remove key => (.found (cache.remove key).1, (cache.remove key).2)
  | .clear => (.done, cache.clear)
  | .size => (.number cache.size, cache)

/-! ## Lists -/

/-- A bounded list of keys with their values, from the most to the least recently used. -/
structure RecencyList (α : Type) where
  capacity : Nat
  policy : FullPolicy
  pairs : List (Int32 × α) := []
deriving DecidableEq, Repr

namespace RecencyList

def value? (list : RecencyList α) (key : Int32) : Option α :=
  (list.pairs.find? fun (name, _) => name == key).map Prod.snd

def contains (list : RecencyList α) (key : Int32) : Bool := (list.value? key).isSome

def without (list : RecencyList α) (key : Int32) : RecencyList α :=
  { list with pairs := list.pairs.filter fun (name, _) => name != key }

def withFront (list : RecencyList α) (key : Int32) (value : α) : RecencyList α :=
  { list with pairs := (key, value) :: (list.without key).pairs }

/-- Inserts a value. A key of the list gets the value and moves to the front. A new key comes
in front while there is room; at capacity the last key gives way, or nothing changes. The
answer is whether the list has the key afterwards. -/
def insert (list : RecencyList α) (key : Int32) (value : α) : Bool × RecencyList α :=
  if list.contains key then (true, list.withFront key value)
  else if list.pairs.length < list.capacity then
    (true, { list with pairs := (key, value) :: list.pairs })
  else
    match list.policy with
    | .evict =>
        let kept := { list with pairs := ((key, value) :: list.pairs).dropLast }
        (kept.contains key, kept)
    | .refuse => (false, list)

/-- Looks a key up, which moves to the front if the list has it. -/
def get (list : RecencyList α) (key : Int32) : Option α × RecencyList α :=
  match list.value? key with
  | some value => (some value, list.withFront key value)
  | none => (none, list)

def perform (list : RecencyList α) : CacheOperation α → CacheAnswer α × RecencyList α
  | .insert key value => (.truth (list.insert key value).1, (list.insert key value).2)
  | .get key => (.found (list.get key).1, (list.get key).2)
  | .contains key => (.truth (list.contains key), list)
  | .remove key => (.found (list.value? key), list.without key)
  | .clear => (.done, { list with pairs := [] })
  | .size => (.number list.pairs.length, list)

/-! ## Look-ups -/

/-- Among pairs with distinct first components, a look-up finds what is paired with its key. -/
theorem find?_fst_eq_some_iff {κ β : Type} [BEq κ] [LawfulBEq κ] {pairs : List (κ × β)}
    (distinct : (pairs.map Prod.fst).Nodup) {key : κ} {value : β} :
    (pairs.find? fun (name, _) => name == key).map Prod.snd = some value ↔
      (key, value) ∈ pairs := by
  rw [Option.map_eq_some_iff]
  constructor
  · rintro ⟨⟨name, _⟩, found, rfl⟩
    have named : name = key := by simpa using List.find?_some found
    exact named ▸ List.mem_of_find?_eq_some found
  · intro member
    obtain ⟨pair, found⟩ := Option.isSome_iff_exists.mp
      (List.find?_isSome (p := fun pair : κ × β => pair.1 == key) |>.mpr
        ⟨(key, value), member, beq_self_eq_true key⟩)
    have named : pair.1 = key := by simpa using List.find?_some found
    have same : pair = (key, value) :=
      List.inj_on_of_nodup_map distinct (List.mem_of_find?_eq_some found) member named
    exact ⟨pair, found, by rw [same]⟩

theorem value?_eq_some_iff {list : RecencyList α} (distinct : (list.pairs.map Prod.fst).Nodup)
    {key : Int32} {value : α} : list.value? key = some value ↔ (key, value) ∈ list.pairs :=
  find?_fst_eq_some_iff distinct

/-! ## Absent keys -/

theorem without_of_absent {list : RecencyList α} {key : Int32}
    (absent : list.contains key = false) : list.without key = list := by
  have unnamed : list.pairs.filter (fun (name, _) => name != key) = list.pairs := by
    simp only [contains, value?, Option.isSome_map, Option.isSome_eq_false_iff,
      Option.isNone_iff_eq_none, List.find?_eq_none] at absent
    refine List.filter_eq_self.mpr fun pair member => ?_
    simpa using absent pair member
  rw [without, unnamed]

theorem withFront_of_absent {list : RecencyList α} {key : Int32}
    (absent : list.contains key = false) (value : α) :
    list.withFront key value = { list with pairs := (key, value) :: list.pairs } := by
  rw [withFront, without_of_absent absent]

theorem without_front_of_absent {list : RecencyList α} {key : Int32}
    (absent : list.contains key = false) (value : α) :
    { list with pairs := (key, value) :: list.pairs }.without key = list := by
  have dropped : ((key, value) :: list.pairs).filter (fun (name, _) => name != key) =
      list.pairs.filter fun (name, _) => name != key := by
    simp
  have kept := without_of_absent absent
  rw [without] at kept ⊢
  rw [dropped]
  exact kept

/-! ## Bounds -/

theorem length_without_le (list : RecencyList α) (key : Int32) :
    (list.without key).pairs.length ≤ list.pairs.length :=
  List.length_filter_le _ _

theorem length_withFront_le {list : RecencyList α} {key : Int32}
    (present : list.contains key = true) (value : α) :
    (list.withFront key value).pairs.length ≤ list.pairs.length := by
  simp only [contains, value?, Option.isSome_map, List.find?_isSome] at present
  obtain ⟨pair, member, named⟩ := present
  have dropped : (list.without key).pairs.length < list.pairs.length := by
    refine List.length_filter_lt_length_iff_exists.mpr ⟨pair, member, ?_⟩
    simpa using named
  exact dropped

/-- No operation makes the list longer than its capacity. -/
theorem length_perform_le {list : RecencyList α}
    (bounded : list.pairs.length ≤ list.capacity) (operation : CacheOperation α) :
    (list.perform operation).2.pairs.length ≤ (list.perform operation).2.capacity := by
  cases operation with
  | insert key value =>
      simp only [perform, insert]
      cases present : list.contains key with
      | true => exact Nat.le_trans (length_withFront_le present value) bounded
      | false =>
          by_cases room : list.pairs.length < list.capacity
          · simp only [room, Bool.false_eq_true, ↓reduceIte]
            exact room
          · cases policy : list.policy <;> simpa [room, policy] using bounded
  | get key =>
      simp only [perform, get]
      cases found : list.value? key with
      | some value =>
          have present : list.contains key = true := by simp [contains, found]
          exact Nat.le_trans (length_withFront_le present value) bounded
      | none => exact bounded
  | remove key => exact Nat.le_trans (length_without_le list key) bounded
  | clear => exact Nat.zero_le _
  | contains key => exact bounded
  | size => exact bounded

@[simp] theorem capacity_perform (list : RecencyList α) (operation : CacheOperation α) :
    (list.perform operation).2.capacity = list.capacity := by
  cases operation with
  | insert key value =>
      simp only [perform, insert]
      repeat' split
      all_goals rfl
  | get key =>
      simp only [perform, get]
      split <;> rfl
  | _ => rfl

@[simp] theorem policy_perform (list : RecencyList α) (operation : CacheOperation α) :
    (list.perform operation).2.policy = list.policy := by
  cases operation with
  | insert key value =>
      simp only [perform, insert]
      repeat' split
      all_goals rfl
  | get key =>
      simp only [perform, get]
      split <;> rfl
  | _ => rfl

theorem length_performAll_le {list : RecencyList α}
    (bounded : list.pairs.length ≤ list.capacity) (operations : List (CacheOperation α)) :
    (performAll perform list operations).2.pairs.length ≤ list.capacity := by
  induction operations generalizing list with
  | nil => exact bounded
  | cons operation rest ih =>
      have rested := ih (length_perform_le bounded operation)
      rwa [capacity_perform] at rested

end RecencyList

end Persistence
