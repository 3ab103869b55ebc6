import Mathlib.Data.List.Induction
import Persistence.Proofs.Instance.Identity
import Persistence.Proofs.Session.CacheTrace

/-!
# Fresh instances

What a session serves from its cache is the last it has seen of the identity asked for. The
cache goes by hashes, which identities share, and drops entries as it sees fit; but what it
holds under a hash is the last record presented under that hash, and records of one identity
share theirs.
-/

set_option autoImplicit false

namespace Persistence

/-! ## Keys -/

/-- A key whose hash is that of every key that identifies the same, of those kinds: an integer
of any width, a text or bytes. -/
def Value.isPlainKey : Value → Bool
  | .int32 _ | .int64 _ | .timestamp _ | .string _ | .bytes _ => true
  | _ => false

theorem identityHash_eq_of_isPlainKey {left right : Value}
    (same : left.identifiesSame right = true) (leftPlain : left.isPlainKey = true)
    (rightPlain : right.isPlainKey = true) (entity : String) :
    identityHash entity left = identityHash entity right := by
  have noTruth : ∀ {value : Value}, value.isPlainKey = true →
      value.isTruth = false ∧ value.isNegativeZero = false := by
    intro value plain
    cases value <;> first | exact ⟨rfl, rfl⟩ | cases plain
  obtain ⟨leftTruth, leftZero⟩ := noTruth leftPlain
  obtain ⟨rightTruth, rightZero⟩ := noTruth rightPlain
  rw [identityHash_eq_iff same, Value.identityHash_eq_iff same, leftTruth, rightTruth, leftZero,
    rightZero]
  exact ⟨rfl, rfl⟩

/-! ## The last record under a hash -/

namespace CacheEvent

def record? : CacheEvent → Option Record
  | .presented record | .deleted record => some record
  | .cleared | .lookedUp _ _ => none

/-- The event presents or deletes a record of the hash, or drops everything. -/
def Touches (catalog : Catalog) (hash : Int32) : CacheEvent → Prop
  | .presented record | .deleted record => catalog.identityHashOf record.toInstance = .ok hash
  | .cleared => True
  | .lookedUp _ _ => False

/-- The event presents or deletes a record of the identity, or drops everything. -/
def Concerns (catalog : Catalog) (entity : String) (key : Value) : CacheEvent → Prop
  | .presented record | .deleted record => catalog.hasIdentity record.toInstance entity key = true
  | .cleared => True
  | .lookedUp _ _ => False

variable {catalog : Catalog} {cache : Cache Record} {hash : Int32} {record : Record}

/-- What is held under a hash after an event has just been presented, or was held before and is
not touched. -/
theorem held_of_apply {event : CacheEvent}
    (held : (apply catalog cache event).value? hash = some record) :
    event = .presented record ∧ catalog.identityHashOf record.toInstance = .ok hash ∨
      cache.value? hash = some record ∧ ¬ event.Touches catalog hash := by
  cases event with
  | presented other =>
      cases hashed : catalog.identityHashOf other.toInstance with
      | error fault =>
          simp only [apply, hashed] at held
          exact .inr ⟨held, by simp [Touches, hashed]⟩
      | ok otherHash =>
          simp only [apply, hashed] at held
          rcases Cache.value?_of_insert held with ⟨rfl, rfl⟩ | ⟨apart, kept⟩
          · exact .inl ⟨rfl, hashed⟩
          · exact .inr ⟨kept, by simpa [Touches, hashed] using Ne.symm apart⟩
  | deleted other =>
      cases hashed : catalog.identityHashOf other.toInstance with
      | error fault =>
          simp only [apply, hashed] at held
          exact .inr ⟨held, by simp [Touches, hashed]⟩
      | ok otherHash =>
          simp only [apply, hashed, Cache.value?_remove] at held
          split at held
          · cases held
          · rename_i apart
            exact .inr ⟨held, by simpa [Touches, hashed] using Ne.symm apart⟩
  | cleared =>
      rw [apply, Cache.value?_clear] at held
      cases held
  | lookedUp entity key =>
      rw [apply, Cache.value?_get] at held
      exact .inr ⟨held, id⟩

/-- What a new cache holds under a hash after any events is the last record presented under it,
and nothing has touched the hash since. -/
theorem held_of_applyAll {capacity : Nat} {policy : FullPolicy} {events : List CacheEvent}
    (held : (applyAll catalog (.empty capacity policy) events).value? hash = some record) :
    ∃ earlier later, events = earlier ++ .presented record :: later ∧
      catalog.identityHashOf record.toInstance = .ok hash ∧
      ∀ event ∈ later, ¬ event.Touches catalog hash := by
  -- The induction is on the last event: it presents the record, or leaves the hash alone.
  induction events using List.reverseRecOn with
  | nil => cases held
  | append_singleton events event ih =>
      rw [applyAll_append] at held
      rcases held_of_apply held with ⟨rfl, hashed⟩ | ⟨before, untouched⟩
      · exact ⟨events, [], rfl, hashed, fun _ member => absurd member List.not_mem_nil⟩
      · obtain ⟨earlier, later, rfl, hashed, others⟩ := ih before
        refine ⟨earlier, later ++ [event], by simp, hashed, ?_⟩
        intro other member
        rcases List.mem_append.mp member with inLater | last
        · exact others other inLater
        · rw [List.mem_singleton.mp last]
          exact untouched

/-- An event that concerns an identity touches its hash, if its key is a plain one. -/
theorem touches_of_concerns {event : CacheEvent} {entity : String} {key : Value}
    (plainKey : key.isPlainKey = true)
    (plainRecord : ∀ record, event.record? = some record →
      ∀ own, catalog.keyValue record.toInstance = .ok own → own.isPlainKey = true)
    (concerns : event.Concerns catalog entity key) :
    event.Touches catalog (identityHash entity key) := by
  have hashed : ∀ record, event.record? = some record →
      catalog.hasIdentity record.toInstance entity key = true →
      catalog.identityHashOf record.toInstance = .ok (identityHash entity key) := by
    intro record isRecord identified
    obtain ⟨rfl, own, keyed, same⟩ := Catalog.hasIdentity_eq_true.mp identified
    exact Catalog.identityHashOf_eq_ok.mpr ⟨own, keyed,
      identityHash_eq_of_isPlainKey same (plainRecord record isRecord own keyed) plainKey _⟩
  cases event with
  | presented record => exact hashed record rfl concerns
  | deleted record => exact hashed record rfl concerns
  | cleared => trivial
  | lookedUp entity key => exact concerns

end CacheEvent

/-! ## What is served from the cache -/

namespace Session

open SessionStep

variable {session : Session} {entity : String} {key : Value} {state : SessionState}
  {record : Record}

/-- The session answers for an identity from its cache: it is asked for what is cached, or it
loads the instance and sends nothing. -/
def ServesFromCache (session : Session) (state : SessionState) (entity : String) (key : Value)
    (record : Record) : Prop :=
  (session.cached? entity key state).1 = .ok (some record) ∨
    (session.load entity key state).1 = .ok (some record) ∧
      (session.load entity key state).2.sent = state.sent

theorem sent_unique {query : Query} {found : Option Record} {after : SessionState}
    (succeeded : session.unique query state = (.ok found, after)) :
    ∃ sql, after.sent = state.sent ++ [.query sql true] := by
  obtain ⟨mapping, _, settled, continuation⟩ := SessionStep.bind_eq_ok.mp succeeded
  obtain ⟨-, rfl⟩ := settle_eq_ok.mp settled
  obtain ⟨sql, _, settled, continuation⟩ := SessionStep.bind_eq_ok.mp continuation
  obtain ⟨-, rfl⟩ := settle_eq_ok.mp settled
  obtain ⟨read, middle, worked, presented⟩ := SessionStep.bind_eq_ok.mp continuation
  have sent : middle.sent = state.sent ++ [.query sql true] := by
    have ended := congrArg Prod.snd worked
    dsimp only at ended
    rw [← ended]
    refine sent_withCursor sql true (fun result => ?_) state
    split
    · exact .pure none
    · exact (IsQuiet.note rfl).bind fun _ => (IsQuiet.create _ _ _).bind fun _ => .pure _
    · exact .settle _
  have unsent := (IsQuiet.cacheAll session read.toList).bind (fun _ => .pure read) middle
  rw [presented] at unsent
  exact ⟨sql, unsent.trans sent⟩

theorem cached_of_servesFromCache (served : session.ServesFromCache state entity key record) :
    state.cache.value? (identityHash entity key) = some record ∧
      session.catalog.hasIdentity record.toInstance entity key = true := by
  have looked := cached?_apply session entity key state
  rcases served with cached | ⟨loaded, unsent⟩
  · rw [looked, Except.ok.injEq, Option.filter_eq_some_iff] at cached
    exact cached
  · unfold load at loaded unsent
    rw [bind_of_ok looked] at loaded unsent
    cases found : (state.cache.value? (identityHash entity key)).filter fun record =>
        session.catalog.hasIdentity record.toInstance entity key with
    | some other =>
        rw [found] at loaded
        cases loaded
        exact Option.filter_eq_some_iff.mp found
    | none =>
        rw [found] at loaded unsent
        rcases ended : (settle (session.catalog.mapping entity) >>= fun mapping =>
            session.unique { entity, criteria := [.compare mapping.key.name .equal key] })
            { state with cache := (state.cache.get (identityHash entity key)).2 } with
          ⟨outcome, after⟩
        dsimp only at loaded unsent
        rw [ended] at loaded unsent
        subst loaded
        -- What is not cached has been asked of storage, and that was sent.
        obtain ⟨mapping, _, settled, asked⟩ := SessionStep.bind_eq_ok.mp ended
        obtain ⟨-, rfl⟩ := settle_eq_ok.mp settled
        obtain ⟨sql, sent⟩ := sent_unique asked
        exact absurd (sent.symm.trans unsent) (by simp [SessionState.sent])

theorem servesFromCache_iff :
    session.ServesFromCache state entity key record ↔
      state.cache.value? (identityHash entity key) = some record ∧
        session.catalog.hasIdentity record.toInstance entity key = true := by
  refine ⟨cached_of_servesFromCache, fun held => .inl ?_⟩
  rw [cached?_apply, Except.ok.injEq]
  exact Option.filter_eq_some_iff.mpr held

/-- What a session serves from its cache is of the identity asked for, and the last record of
that identity that it presented to its cache; since then it has deleted none of that identity
and not cleared its cache. -/
theorem last_of_servesFromCache (plain : session.factory = .plain) (capacity : Nat)
    (policy : FullPolicy) (script : Script) (operations : List SessionOperation)
    (plainKey : key.isPlainKey = true)
    (plainRecords : ∀ event ∈ session.history (.initial capacity policy script) operations,
      ∀ record, event.record? = some record →
        ∀ own, session.catalog.keyValue record.toInstance = .ok own → own.isPlainKey = true)
    (served : session.ServesFromCache
      (session.stateAfter (.initial capacity policy script) operations) entity key record) :
    session.catalog.hasIdentity record.toInstance entity key = true ∧
      ∃ earlier later, session.history (.initial capacity policy script) operations =
          earlier ++ .presented record :: later ∧
        ∀ event ∈ later, ¬ event.Concerns session.catalog entity key := by
  obtain ⟨held, identified⟩ := cached_of_servesFromCache served
  have keepsEntity : session.factory.KeepsEntity := plain ▸ Factory.keepsEntity_plain
  rw [cache_stateAfter keepsEntity] at held
  obtain ⟨earlier, later, shape, -, untouched⟩ := CacheEvent.held_of_applyAll held
  refine ⟨identified, earlier, later, shape, fun event member concerns => ?_⟩
  refine untouched event member (CacheEvent.touches_of_concerns plainKey ?_ concerns)
  refine plainRecords event ?_
  rw [shape]
  exact List.mem_append_right earlier (List.mem_cons_of_mem _ member)

/-! ## Letters that share a hash -/

def letterSession : Session where
  catalog := { schema := ⟨[
    { name := "Letter"
      table := some "letter"
      fields := [
        { name := "id", type := .scalar .int64, isPrimaryKey := true },
        { name := "text", type := .scalar .string }] }]⟩ }

def letter (number : Int64) (text : String) : Record :=
  ⟨"Letter", [("id", .int64 number), ("text", .string text)]⟩

/-- A letter is presented, displaced by one whose number shares its hash, and presented anew. -/
def letterOperations : List SessionOperation :=
  [.cache (letter 1 "draft"), .cache (letter 4294967296 "other"), .load "Letter" (.int64 1),
    .cache (letter 1 "final"), .cached "Letter" (.int32 1)]

theorem last_of_servesFromCache_letter :
    identityHash "Letter" (.int64 1) = identityHash "Letter" (.int64 4294967296) ∧
      (Value.int64 1).isPlainKey = true ∧
      (∀ event ∈ letterSession.history (.initial 1000 .evict {}) letterOperations,
        ∀ record, event.record? = some record → ∀ own,
          letterSession.catalog.keyValue record.toInstance = .ok own → own.isPlainKey = true) ∧
      letterSession.ServesFromCache
        (letterSession.stateAfter (.initial 1000 .evict {}) letterOperations) "Letter" (.int64 1)
        (letter 1 "final") ∧
      letterSession.catalog.hasIdentity (letter 1 "final").toInstance "Letter" (.int64 1) =
        true ∧
      ∃ earlier later, letterSession.history (.initial 1000 .evict {}) letterOperations =
          earlier ++ .presented (letter 1 "final") :: later ∧
        ∀ event ∈ later, ¬ event.Concerns letterSession.catalog "Letter" (.int64 1) := by
  have told : letterSession.history (.initial 1000 .evict {}) letterOperations =
      [.presented (letter 1 "draft"), .presented (letter 4294967296 "other"),
        .lookedUp "Letter" (.int64 1), .presented (letter 1 "final"),
        .lookedUp "Letter" (.int32 1)] := rfl
  have plainRecords :
      ∀ event ∈ letterSession.history (.initial 1000 .evict {}) letterOperations,
        ∀ record, event.record? = some record → ∀ own,
          letterSession.catalog.keyValue record.toInstance = .ok own →
            own.isPlainKey = true := by
    rw [told]
    intro event member record about own keyed
    simp only [List.mem_cons, List.not_mem_nil, or_false] at member
    rcases member with rfl | rfl | rfl | rfl | rfl <;> cases about <;> cases keyed <;> rfl
  have served : letterSession.ServesFromCache
      (letterSession.stateAfter (.initial 1000 .evict {}) letterOperations) "Letter" (.int64 1)
      (letter 1 "final") := .inl rfl
  exact ⟨by decide, rfl, plainRecords, served,
    last_of_servesFromCache rfl 1000 .evict {} letterOperations rfl plainRecords served⟩

end Session

end Persistence
