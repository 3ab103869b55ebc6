import Persistence.Proofs.Outcome
import Persistence.Proofs.Session.Sent

/-!
# Records of a result

The records that a session has read when it succeeds: one for each row of the answer to its
query, in order, made by its factory.
-/

set_option autoImplicit false

namespace Persistence

namespace SessionStep

variable {α : Type} {sql : String} {isCacheable : Bool} {state after : SessionState}

theorem query_of_scripted {answer : ResultSet}
    (scripted : state.script.results.head? = some (.ok answer)) (sql : String)
    (isCacheable : Bool) : ∃ opened, query sql isCacheable state = (.ok answer, opened) := by
  unfold query
  cases results : state.script.results with
  | nil => simp [results] at scripted
  | cons first rest =>
      rw [results, List.head?_cons, Option.some.injEq] at scripted
      subst scripted
      exact ⟨_, rfl⟩

/-- The work on a cursor starts behind the query, and its outcome is that of the whole. -/
theorem withCursor_of_scripted {answer : ResultSet}
    (scripted : state.script.results.head? = some (.ok answer))
    (work : ResultSet → SessionStep α) :
    ∃ opened, (withCursor sql isCacheable work state).1 = (work answer opened).1 := by
  obtain ⟨opened, queried⟩ := query_of_scripted scripted sql isCacheable
  refine ⟨opened, ?_⟩
  rw [withCursor, bind_of_ok queried]
  rfl

theorem withCursor_eq_ok {work : ResultSet → SessionStep α} {result : α}
    (worked : withCursor sql isCacheable work state = (.ok result, after)) :
    ∃ answer opened ended, query sql isCacheable state = (.ok answer, opened) ∧
      work answer opened = (.ok result, ended) ∧
      after = { ended with log := ended.log ++ [.closed] } := by
  obtain ⟨answer, opened, queried, closed⟩ := bind_eq_ok.mp worked
  rcases ended : work answer opened with ⟨outcome, last⟩
  rw [closing, ended] at closed
  cases closed
  exact ⟨answer, opened, last, queried, ended, rfl⟩

theorem create_eq_ok {factory : Factory} {mapping : Mapping} {row : Row} {record : Record}
    (made : create factory mapping row state = (.ok record, after)) :
    ∃ number, factory.create number mapping row = .ok record :=
  ⟨state.created + 1, congrArg Prod.fst made⟩

theorem createAll_eq_ok {factory : Factory} {mapping : Mapping} {columns : List String}
    {rows : List (List Value)} {records : List Record}
    (made : createAll factory mapping columns rows state = (.ok records, after)) :
    List.Forall₂
      (fun cells record => ∃ number, factory.create number mapping ⟨columns, cells⟩ = .ok record)
      rows records := by
  induction rows generalizing state records with
  | nil =>
      obtain ⟨_, _, _, continuation⟩ := bind_eq_ok.mp made
      cases continuation
      exact .nil
  | cons cells rest ih =>
      obtain ⟨_, _, _, continuation⟩ := bind_eq_ok.mp made
      obtain ⟨record, _, created, continuation⟩ := bind_eq_ok.mp continuation
      obtain ⟨records, _, othersMade, continuation⟩ := bind_eq_ok.mp continuation
      cases continuation
      exact .cons (create_eq_ok created) (ih othersMade)

end SessionStep

namespace Session

open SessionStep

variable {session : Session} {query : Query} {state after : SessionState}

/-- A list succeeds with one record for each row of the answer to its selection, unless the
answer reports no rows. -/
theorem list_eq_ok {records : List Record}
    (listed : session.list query state = (.ok records, after)) :
    ∃ mapping sql answer opened, session.catalog.mapping query.entity = .ok mapping ∧
      session.selectText query = .ok sql ∧
      SessionStep.query sql true state = (.ok answer, opened) ∧
      (answer.count = 0 ∧ records = [] ∨
        answer.count ≠ 0 ∧ List.Forall₂
          (fun cells record =>
            ∃ number, session.factory.create number mapping ⟨answer.columns, cells⟩ = .ok record)
          answer.rows records) := by
  obtain ⟨mapping, _, settled, continuation⟩ := SessionStep.bind_eq_ok.mp listed
  obtain ⟨mapped, rfl⟩ := settle_eq_ok.mp settled
  obtain ⟨sql, _, settled, continuation⟩ := SessionStep.bind_eq_ok.mp continuation
  obtain ⟨compiled, rfl⟩ := settle_eq_ok.mp settled
  obtain ⟨_, _, worked, continuation⟩ := SessionStep.bind_eq_ok.mp continuation
  obtain ⟨_, _, _, finished⟩ := SessionStep.bind_eq_ok.mp continuation
  cases finished
  obtain ⟨answer, opened, _, queried, made, -⟩ := withCursor_eq_ok worked
  refine ⟨mapping, sql, answer, opened, mapped, compiled, queried, ?_⟩
  by_cases empty : answer.count = 0
  · rw [if_pos empty] at made
    cases made
    exact .inl ⟨empty, rfl⟩
  · rw [if_neg empty] at made
    exact .inr ⟨empty, createAll_eq_ok made⟩

end Session

end Persistence
