import Persistence.Proofs.Cache.Inclusion
import Persistence.Proofs.Session.LinkRemoval
import Persistence.Proofs.Session.Presence

/-!
# Updated rows

What is served of a row that an update has not found. The number of rows changed is passed on
to the caller, and the instance is presented to the cache whatever it is: it is served from
there from now on, unless the cache turns it away.
-/

set_option autoImplicit false

namespace Persistence

/-! ## What a cache accepts -/

namespace Cache

variable {α : Type} {cache : Cache α}

/-- Whether the cache holds a value of the key once one is inserted: it has the key, or room
for one more, or drops another entry to make room. -/
def Accepts (cache : Cache α) (key : Int32) : Prop :=
  cache.contains key = true ∨ cache.size < cache.capacity ∨
    cache.policy = .evict ∧ 0 < cache.capacity

/-- The cache is a recency list that is no longer than its capacity. -/
def IsBounded (cache : Cache α) : Prop :=
  ∃ list, cache.Represents list ∧ list.pairs.length ≤ list.capacity

theorem isBounded_empty (capacity : Nat) (policy : FullPolicy) :
    (empty capacity policy : Cache α).IsBounded :=
  ⟨_, .empty capacity policy, Nat.zero_le _⟩

theorem IsBounded.perform (bounded : cache.IsBounded) (operation : CacheOperation α) :
    (cache.perform operation).2.IsBounded := by
  obtain ⟨list, represents, length⟩ := bounded
  exact ⟨_, (represents.perform operation).2, RecencyList.length_perform_le length operation⟩

theorem value?_insert_iff (bounded : cache.IsBounded) (key : Int32) (value : α) :
    (cache.insert key value).2.value? key = some value ↔ cache.Accepts key := by
  obtain ⟨list, represents, length⟩ := bounded
  obtain ⟨answered, kept⟩ := represents.insert key value
  have accepted : (cache.insert key value).2.contains key = true ↔ cache.Accepts key := by
    rw [kept.contains_eq, ← RecencyList.insert_fst, RecencyList.insert_fst_eq_true_iff length,
      Accepts, represents.contains_eq, represents.size_eq, represents.capacity,
      represents.policy, RecencyList.Admits, or_assoc]
  rw [← accepted, contains_eq_true_iff]
  constructor
  · exact fun held => ⟨value, held⟩
  · rintro ⟨found, held⟩
    -- What is held under the key now can only be the value that was inserted.
    rcases value?_of_insert held with ⟨-, rfl⟩ | ⟨different, -⟩
    · exact held
    · exact absurd rfl different

end Cache

theorem CacheEvent.isBounded_apply {catalog : Catalog} {cache : Cache Record}
    (bounded : cache.IsBounded) (event : CacheEvent) :
    (event.apply catalog cache).IsBounded := by
  cases event with
  | presented record =>
      simp only [apply]
      cases catalog.identityHashOf record.toInstance with
      | ok hash => exact bounded.perform (.insert hash record)
      | error fault => exact bounded
  | deleted record =>
      simp only [apply]
      cases catalog.identityHashOf record.toInstance with
      | ok hash => exact bounded.perform (.remove hash)
      | error fault => exact bounded
  | cleared => exact bounded.perform .clear
  | lookedUp entity key => exact bounded.perform (.get (identityHash entity key))

namespace Session

open SessionStep

variable {session : Session} {state : SessionState} {record : Record} {statement : Statement}

theorem isBounded_of_isReachable (reachable : session.IsReachable state) :
    state.cache.IsBounded := by
  obtain ⟨capacity, policy, script, operations, rfl⟩ := reachable
  have begun : (Cache.empty capacity policy : Cache Record).IsBounded :=
    Cache.isBounded_empty capacity policy
  exact @holds_stateAfter session Cache.IsBounded
    (fun event _ before => CacheEvent.isBounded_apply before event) _ begun operations

/-! ## An update that finds no row -/

theorem run_of_scripted {rows : Nat}
    (scripted : state.script.changes.head? = some (.ok rows)) (statement : Statement) :
    ∃ after, run statement state = (.ok rows, after) ∧ after.cache = state.cache := by
  unfold run execute
  cases changes : state.script.changes with
  | nil => simp [changes] at scripted
  | cons first rest =>
      rw [changes, List.head?_cons, Option.some.injEq] at scripted
      subst scripted
      exact ⟨_, rfl, rfl⟩

theorem keyValue_of_update {catalog : Catalog} {item : Instance} {changed : Option Statement}
    (compiled : catalog.update item = .ok changed) : ∃ key, catalog.keyValue item = .ok key := by
  obtain ⟨mapping, mapped, -⟩ := bind_eq_ok.mp compiled
  exact Catalog.exists_keyValue mapped

theorem update_of_scripted {rows : Nat} {hash : Int32}
    (compiled : session.catalog.update record.toInstance = .ok (some statement))
    (hashed : session.catalog.identityHashOf record.toInstance = .ok hash)
    (scripted : state.script.changes.head? = some (.ok rows)) :
    ∃ after, session.update record state = (.ok rows, after) ∧
      after.sent = state.sent ++ [sentChange statement] ∧
      after.cache = (state.cache.insert hash record).2 := by
  obtain ⟨middle, ran, kept⟩ := run_of_scripted scripted statement
  refine ⟨{ middle with cache := (middle.cache.insert hash record).2 }, ?_, ?_, ?_⟩
  · rw [update, compiled, settle_ok_bind]
    dsimp only
    rw [bind_of_ok ran, cache, hashed, settle_ok_bind]
    rfl
  · change middle.sent = state.sent ++ [sentChange statement]
    exact sent_run ran
  · rw [kept]

/-- An update that has found no row still presents the instance to the cache. It is served from
there afterwards, under its own key if at all, exactly if the cache accepts its hash and the
key is one that identifies itself. -/
theorem servesFromCache_of_unchanged (reachable : session.IsReachable state)
    (compiled : session.catalog.update record.toInstance = .ok (some statement))
    (unchanged : state.script.changes.head? = some (.ok 0)) :
    ∃ key after, session.catalog.keyValue record.toInstance = .ok key ∧
      session.update record state = (.ok 0, after) ∧
      after.sent = state.sent ++ [sentChange statement] ∧
      (session.ServesFromCache after record.entity key record ↔
        state.cache.Accepts (identityHash record.entity key) ∧ key.identifiesSame key = true) ∧
      ∀ entity other, session.ServesFromCache after entity other record →
        session.ServesFromCache after record.entity key record := by
  obtain ⟨key, keyed⟩ := keyValue_of_update compiled
  have hashed : session.catalog.identityHashOf record.toInstance =
      .ok (identityHash record.entity key) :=
    Catalog.identityHashOf_eq_ok.mpr ⟨key, keyed, rfl⟩
  obtain ⟨after, updated, sent, presented⟩ := update_of_scripted compiled hashed unchanged
  have identified : session.catalog.hasIdentity record.toInstance record.entity key = true ↔
      key.identifiesSame key = true :=
    (Catalog.hasIdentity_iff keyed).trans (and_iff_right rfl)
  refine ⟨key, after, keyed, updated, sent, ?_, fun entity other served => ?_⟩
  · rw [servesFromCache_iff, presented, identified,
      Cache.value?_insert_iff (isBounded_of_isReachable reachable)]
  · obtain ⟨held, same⟩ := servesFromCache_iff.mp served
    have ownSame := ((Catalog.hasIdentity_iff keyed).mp same).2
    have byHash : after.cache.IsByHash session.catalog := by
      have kept := CacheEvent.isByHash_apply (isByHash_of_isReachable reachable)
        (.presented record)
      simp only [CacheEvent.apply, hashed] at kept
      rw [presented]
      exact kept
    -- What holds the record for another key holds it under the record's own hash.
    have sameHash := byHash _ record held
    rw [hashed, Except.ok.injEq] at sameHash
    rw [← sameHash] at held
    exact servesFromCache_iff.mpr ⟨held, identified.mpr (Value.identifiesSame_self ownSame)⟩

/-! ## A letter that was never written -/

/-- A new session whose storage finds no row to change. -/
def rowlessState : SessionState := .initial 1000 .evict { changes := [.ok 0] }

theorem isReachable_rowlessState : letterSession.IsReachable rowlessState :=
  ⟨1000, .evict, { changes := [.ok 0] }, [], rfl⟩

theorem servesFromCache_of_unchanged_letter :
    letterSession.IsReachable rowlessState ∧
      rowlessState.script.changes.head? = some (.ok 0) ∧
      ∃ statement, letterSession.catalog.update (letter 1 "draft").toInstance =
          .ok (some statement) ∧
        ∃ key after, letterSession.catalog.keyValue (letter 1 "draft").toInstance = .ok key ∧
          letterSession.update (letter 1 "draft") rowlessState = (.ok 0, after) ∧
          after.sent = rowlessState.sent ++ [sentChange statement] ∧
          (letterSession.ServesFromCache after "Letter" key (letter 1 "draft") ↔
            rowlessState.cache.Accepts (identityHash "Letter" key) ∧
              key.identifiesSame key = true) ∧
          ∀ entity other, letterSession.ServesFromCache after entity other (letter 1 "draft") →
            letterSession.ServesFromCache after "Letter" key (letter 1 "draft") := by
  have compiled : ∃ statement,
      letterSession.catalog.update (letter 1 "draft").toInstance = .ok (some statement) :=
    ⟨_, rfl⟩
  obtain ⟨statement, compiled⟩ := compiled
  exact ⟨isReachable_rowlessState, rfl, statement, compiled,
    servesFromCache_of_unchanged isReachable_rowlessState compiled rfl⟩

/-- The letter has no row, as its update has just shown, and is served from the cache. -/
theorem not_unserved_letter :
    letterSession.IsReachable rowlessState ∧
      (letterSession.update (letter 1 "draft") rowlessState).1 = .ok 0 ∧
      (letterSession.update (letter 1 "draft") rowlessState).2.sent =
        [.execute "UPDATE letter SET text = 'draft' WHERE id = 1"] ∧
      (letterSession.cached? "Letter" (.int64 1)
        (letterSession.update (letter 1 "draft") rowlessState).2).1 =
          .ok (some (letter 1 "draft")) ∧
      (letterSession.load "Letter" (.int64 1)
        (letterSession.update (letter 1 "draft") rowlessState).2).1 =
          .ok (some (letter 1 "draft")) :=
  ⟨isReachable_rowlessState, rfl, by decide +kernel, by decide +kernel, by decide +kernel⟩

end Session

end Persistence
