import Persistence.Proofs.Outcome
import Persistence.Session.Reading

/-!
# Statements sent

What a session sends to its storage, read off the log. Most steps of a session are quiet: they
move a cursor, make a record or touch the cache, and send nothing whether they succeed or fail.
-/

set_option autoImplicit false

namespace Persistence

def Event.isStatement : Event → Bool
  | .query _ _ | .execute _ => true
  | _ => false

/-- The statements sent so far, in order. -/
def SessionState.sent (state : SessionState) : List Event :=
  state.log.filter Event.isStatement

namespace SessionStep

variable {α β : Type}

/-! ## Steps one after the other -/

theorem bind_of_ok {step : SessionStep α} {state middle : SessionState} {value : α}
    (ended : step state = (.ok value, middle)) (next : α → SessionStep β) :
    (step >>= next) state = next value middle :=
  bind_apply_of_ok ended next

theorem bind_of_error {step : SessionStep α} {state middle : SessionState} {fault : Error}
    (ended : step state = (.error fault, middle)) (next : α → SessionStep β) :
    (step >>= next) state = (.error fault, middle) :=
  bind_apply_of_error ended next

theorem bind_eq_ok {step : SessionStep α} {next : α → SessionStep β}
    {state after : SessionState} {result : β} :
    (step >>= next) state = (.ok result, after) ↔
      ∃ value middle, step state = (.ok value, middle) ∧
        next value middle = (.ok result, after) :=
  bind_apply_eq_ok

theorem settle_eq_ok {outcome : Except Error α} {state after : SessionState} {result : α} :
    settle outcome state = (.ok result, after) ↔ outcome = .ok result ∧ state = after := by
  constructor
  · intro settled
    cases settled
    exact ⟨rfl, rfl⟩
  · rintro ⟨rfl, rfl⟩
    rfl

theorem settle_ok_bind (value : α) (next : α → SessionStep β) :
    (settle (.ok value) >>= next) = next value :=
  rfl

/-! ## Steps that keep a part of the state -/

/-- The step leaves a part of the state as it is, whatever its outcome. -/
def Keeps {γ : Type} (part : SessionState → γ) (step : SessionStep α) : Prop :=
  ∀ state, part (step state).2 = part state

namespace Keeps

variable {γ : Type} (part : SessionState → γ)

theorem settle (outcome : Except Error α) : Keeps part (settle outcome) := fun _ => rfl

theorem pure (value : α) : Keeps part (Pure.pure value : SessionStep α) := fun _ => rfl

theorem bind {step : SessionStep α} {next : α → SessionStep β} (keeps : Keeps part step)
    (othersKeep : ∀ value, Keeps part (next value)) : Keeps part (step >>= next) := by
  intro state
  have first := keeps state
  rcases ended : step state with ⟨outcome, middle⟩
  rw [ended] at first
  cases outcome with
  | error fault => rw [bind_of_error ended, first]
  | ok value => rw [bind_of_ok ended, othersKeep value middle, first]

theorem createAll {factory : Factory} {mapping : Mapping} (columns : List String)
    (advances : Keeps part (note .advanced))
    (creates : ∀ row, Keeps part (create factory mapping row)) (rows : List (List Value)) :
    Keeps part (createAll factory mapping columns rows) := by
  induction rows with
  | nil => exact bind part advances fun _ => pure part []
  | cons cells rest ih =>
      exact bind part advances fun _ => bind part (creates _) fun record =>
        bind part ih fun records => pure part (record :: records)

end Keeps

/-! ## Steps that leave storage alone -/

/-- The step neither asks storage anything nor touches a cursor, whatever its outcome. -/
def KeepsStorage (step : SessionStep α) : Prop :=
  Keeps (fun state => (state.log, state.script)) step

namespace KeepsStorage

theorem settle (outcome : Except Error α) : KeepsStorage (settle outcome) :=
  Keeps.settle _ outcome

theorem pure (value : α) : KeepsStorage (Pure.pure value : SessionStep α) := Keeps.pure _ value

theorem bind {step : SessionStep α} {next : α → SessionStep β} (keeps : KeepsStorage step)
    (othersKeep : ∀ value, KeepsStorage (next value)) : KeepsStorage (step >>= next) :=
  Keeps.bind _ keeps othersKeep

theorem store (hash : Int32) (record : Record) : KeepsStorage (store hash record) := fun _ => rfl

theorem lookUp (hash : Int32) : KeepsStorage (lookUp hash) := fun _ => rfl

theorem forget (hash : Int32) : KeepsStorage (forget hash) := fun _ => rfl

theorem cache (session : Session) (record : Record) : KeepsStorage (session.cache record) :=
  (settle _).bind fun hash => store hash record

theorem cacheAll (session : Session) (records : List Record) :
    KeepsStorage (session.cacheAll records) := by
  induction records with
  | nil => exact .pure ()
  | cons record rest ih => exact (cache session record).bind fun _ => ih

theorem cached? (session : Session) (entity : String) (key : Value) :
    KeepsStorage (session.cached? entity key) :=
  (lookUp _).bind fun _ => .pure _

end KeepsStorage

/-! ## Quiet steps -/

/-- The step sends nothing, whatever its outcome. -/
def IsQuiet (step : SessionStep α) : Prop :=
  ∀ state, (step state).2.sent = state.sent

namespace IsQuiet

theorem settle (outcome : Except Error α) : IsQuiet (settle outcome) := Keeps.settle _ outcome

theorem pure (value : α) : IsQuiet (Pure.pure value : SessionStep α) := Keeps.pure _ value

theorem bind {step : SessionStep α} {next : α → SessionStep β} (quiet : IsQuiet step)
    (othersQuiet : ∀ value, IsQuiet (next value)) : IsQuiet (step >>= next) :=
  Keeps.bind SessionState.sent quiet othersQuiet

theorem note {event : Event} (unsent : event.isStatement = false) : IsQuiet (note event) := by
  intro state
  simp [SessionStep.note, SessionState.sent, unsent]

theorem create (factory : Factory) (mapping : Mapping) (row : Row) :
    IsQuiet (create factory mapping row) := by
  intro state
  simp [SessionStep.create, SessionState.sent, Event.isStatement]

theorem createAll (factory : Factory) (mapping : Mapping) (columns : List String)
    (rows : List (List Value)) : IsQuiet (createAll factory mapping columns rows) :=
  Keeps.createAll SessionState.sent columns (note rfl) (create factory mapping) rows

theorem closing {work : SessionStep α} (quiet : IsQuiet work) : IsQuiet (closing work) := by
  intro state
  rw [← quiet state, SessionStep.closing]
  rcases work state with ⟨outcome, after⟩
  simp [SessionState.sent, Event.isStatement]

theorem store (hash : Int32) (record : Record) : IsQuiet (store hash record) := fun _ => rfl

theorem forget (hash : Int32) : IsQuiet (forget hash) := fun _ => rfl

theorem cacheAll (session : Session) (records : List Record) :
    IsQuiet (session.cacheAll records) := by
  induction records with
  | nil => exact .pure ()
  | cons record rest ih =>
      exact ((IsQuiet.settle _).bind fun hash => store hash record).bind fun _ => ih

end IsQuiet

/-! ## Statements -/

theorem sent_query (sql : String) (isCacheable : Bool) (state : SessionState) :
    (query sql isCacheable state).2.sent = state.sent ++ [.query sql isCacheable] := by
  unfold query
  cases state.script.results with
  | nil => simp [SessionState.sent, Event.isStatement]
  | cons answer rest =>
      cases answer <;> simp [SessionState.sent, List.filter_cons, Event.isStatement]

theorem sent_execute (sql : String) (state : SessionState) :
    (execute sql state).2.sent = state.sent ++ [.execute sql] := by
  unfold execute
  cases state.script.changes with
  | nil => simp [SessionState.sent, Event.isStatement]
  | cons answer rest => cases answer <;> simp [SessionState.sent, Event.isStatement]

theorem sent_bind_quiet (step : SessionStep α) {next : α → SessionStep β}
    (quiet : ∀ value, IsQuiet (next value)) (state : SessionState) :
    ((step >>= next) state).2.sent = (step state).2.sent := by
  rcases ended : step state with ⟨outcome, middle⟩
  cases outcome with
  | error fault => rw [bind_of_error ended]
  | ok value => rw [bind_of_ok ended, quiet value middle]

theorem sent_withCursor (sql : String) (isCacheable : Bool) {work : ResultSet → SessionStep α}
    (quiet : ∀ result, IsQuiet (work result)) (state : SessionState) :
    (withCursor sql isCacheable work state).2.sent =
      state.sent ++ [.query sql isCacheable] := by
  rw [withCursor, sent_bind_quiet _ (fun result => (quiet result).closing), sent_query]

end SessionStep

end Persistence
