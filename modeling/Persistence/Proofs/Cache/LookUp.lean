import Persistence.Session.Cache

/-!
# What a cache holds

The value under a key after each operation. Only an insertion changes what is held under a
key, and only under its own; every other operation keeps a value or loses it.
-/

set_option autoImplicit false

namespace Persistence.Cache

variable {α : Type} {cache : Cache α} {key other : Int32} {value found : α}

/-- The value held under a key, without taking note of its use. -/
def value? (cache : Cache α) (key : Int32) : Option α :=
  (cache.peek? key).map CacheEntry.value

theorem contains_eq (cache : Cache α) (key : Int32) :
    cache.contains key = (cache.value? key).isSome := by
  rw [value?, Option.isSome_map, contains]

theorem contains_eq_true_iff (cache : Cache α) (key : Int32) :
    cache.contains key = true ↔ ∃ value, cache.value? key = some value := by
  rw [contains_eq, Option.isSome_iff_exists]

/-! ## Entries -/

theorem find?_others (entries : List (Int32 × CacheEntry α)) (key other : Int32) :
    (entries.filter fun (name, _) => name != key).find? (fun (name, _) => name == other) =
      if other = key then none else entries.find? fun (name, _) => name == other := by
  induction entries with
  | nil => simp
  | cons slot rest ih =>
      by_cases dropped : slot.1 = key
      · rw [List.filter_cons_of_neg (by simpa using dropped), ih]
        by_cases same : other = key
        · rw [if_pos same, if_pos same]
        · have apart : slot.1 ≠ other := fun named => same (named.symm.trans dropped)
          rw [if_neg same, if_neg same, List.find?_cons_of_neg (by simpa using apart)]
      · rw [List.filter_cons_of_pos (by simpa using dropped)]
        by_cases named : slot.1 = other
        · have apart : other ≠ key := fun same => dropped (named.trans same)
          rw [List.find?_cons_of_pos (by simpa using named), if_neg apart,
            List.find?_cons_of_pos (by simpa using named)]
        · rw [List.find?_cons_of_neg (by simpa using named), ih,
            List.find?_cons_of_neg (by simpa using named)]

theorem value?_drop (cache : Cache α) (key other : Int32) :
    (cache.drop key).value? other = if other = key then none else cache.value? other := by
  cases present : cache.peek? key with
  | none =>
      have kept : cache.drop key = cache := by rw [drop, present]
      rw [kept]
      split
      · rename_i same
        rw [same, value?, present, Option.map_none]
      · rfl
  | some entry =>
      rw [drop, present]
      unfold value? peek?
      rw [find?_others]
      split <;> rfl

theorem value?_put (cache : Cache α) (key other : Int32) (value : α) :
    (cache.put key value).value? other =
      if other = key then some value else cache.value? other := by
  have kept := value?_drop cache key other
  by_cases same : other = key
  · subst same
    simp [value?, peek?, put]
  · rw [if_neg same] at kept ⊢
    rw [← kept]
    simp [value?, peek?, put, Ne.symm same]

theorem value?_of_evictOldest (held : cache.evictOldest.value? key = some found) :
    cache.value? key = some found := by
  unfold evictOldest at held
  split at held
  · exact held
  · unfold value? peek? at held
    rw [find?_others] at held
    split at held
    · cases held
    · exact held

/-! ## Operations -/

/-- After an insertion a key has the value that it had, unless it is the key inserted. -/
theorem value?_of_insert (held : (cache.insert key value).2.value? other = some found) :
    other = key ∧ found = value ∨ other ≠ key ∧ cache.value? other = some found := by
  have extended : (cache.put key value).value? other = some found →
      other = key ∧ found = value ∨ other ≠ key ∧ cache.value? other = some found := by
    intro put
    rw [value?_put] at put
    split at put
    · rename_i same
      cases put
      exact .inl ⟨same, rfl⟩
    · rename_i apart
      exact .inr ⟨apart, put⟩
  unfold insert at held
  dsimp only at held
  split at held
  · exact extended held
  · split at held
    · exact extended held
    · cases policy : cache.policy with
      | evict =>
          rw [policy] at held
          exact extended (value?_of_evictOldest held)
      | refuse =>
          rw [policy] at held
          change ((cache.put key value).drop key).value? other = some found at held
          rw [value?_drop] at held
          split at held
          · cases held
          · exact extended held

theorem get_fst (cache : Cache α) (key : Int32) : (cache.get key).1 = cache.value? key := by
  unfold get value?
  cases cache.peek? key <;> rfl

theorem value?_get (cache : Cache α) (key other : Int32) :
    (cache.get key).2.value? other = cache.value? other := by
  cases present : cache.peek? key with
  | none =>
      rw [get, present]
      rfl
  | some entry =>
      rw [get, present]
      change (cache.put key entry.value).value? other = cache.value? other
      rw [value?_put]
      split
      · rename_i same
        rw [same, value?, present, Option.map_some]
      · rfl

theorem value?_remove (cache : Cache α) (key other : Int32) :
    (cache.remove key).2.value? other = if other = key then none else cache.value? other :=
  value?_drop cache key other

theorem value?_clear (cache : Cache α) (key : Int32) : cache.clear.value? key = none := rfl

end Persistence.Cache
