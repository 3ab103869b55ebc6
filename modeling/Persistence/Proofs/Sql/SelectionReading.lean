import Persistence.Proofs.Sql.ConditionReading

/-!
# Selections read back

The text of a selection determines the selection: its table, its conditions in their order,
and its page. No value can change how the text around it is read.
-/

set_option autoImplicit false

namespace Persistence.Sql

/-! ## Statements -/

def restrictionTokens : List Condition → List Token
  | [] => []
  | conditions => .keyword .whereRows :: Condition.conjunctionTokens conditions

def pageTokens : Option Page → List Token
  | none => []
  | some page =>
      [.keyword .limit, .numeral (Nat.toDigits 10 page.limit), .keyword .offset,
        .numeral (Nat.toDigits 10 page.offset)]

theorem lex_natural (value : Nat) {rest : List Char} (separated : Separated rest) :
    lex .between ((toString value).toList ++ rest) =
      .numeral (Nat.toDigits 10 value) :: lex .between rest := by
  have spelled : (toString value).toList = signed false (Nat.toDigits 10 value) :=
    Nat.toList_repr
  have scanned := scan_signed false (isMagnitude_toDigits value)
  rw [← spelled] at scanned
  rw [lex_open _ scanned trivial separated, spelled]
  rfl

theorem lex_page (page : Option Page) :
    lex .between ((page.map Page.render).getD "").toList = pageTokens page := by
  cases page with
  | none => rfl
  | some page =>
      simp only [Option.map_some, Option.getD_some, Page.render, String.toList_append,
        List.append_assoc]
      rw [lex_closed " LIMIT " [.keyword .limit] rfl, lex_natural,
        lex_closed " OFFSET " [.keyword .offset] rfl,
        ← List.append_nil (toString page.offset).toList, lex_natural] <;> rfl

theorem separated_page (page : Option Page) :
    Separated ((page.map Page.render).getD "").toList := by
  cases page with
  | none => rfl
  | some page =>
      simp only [Option.map_some, Option.getD_some, Page.render, String.toList_append,
        List.append_assoc]
      rfl

theorem lex_restriction {conditions : List Condition}
    (readable : ∀ condition ∈ conditions, condition.IsReadable) {rest : List Char}
    (separated : Separated rest) :
    lex .between ((Condition.renderWhere conditions).toList ++ rest) =
      restrictionTokens conditions ++ lex .between rest := by
  cases conditions with
  | nil => rfl
  | cons first conditions =>
      simp only [Condition.renderWhere, String.toList_append, List.append_assoc]
      rw [lex_closed " WHERE " [.keyword .whereRows] rfl, lex_conjunction readable separated]
      rfl

theorem separated_restriction (conditions : List Condition) {rest : List Char}
    (separated : Separated rest) :
    Separated ((Condition.renderWhere conditions).toList ++ rest) := by
  cases conditions with
  | nil => exact separated
  | cons first conditions =>
      simp only [Condition.renderWhere, String.toList_append, List.append_assoc]
      rfl

theorem render_select (projection : Projection) (table : String)
    (conditions : List Condition) (page : Option Page) :
    (Statement.select projection table conditions page).render =
      "SELECT " ++ projection.render ++ " FROM " ++ table ++
        Condition.renderWhere conditions ++ (page.map Page.render).getD "" :=
  rfl

theorem tokens_select {table : String} (named : IsPlainName table)
    {conditions : List Condition}
    (readable : ∀ condition ∈ conditions, condition.IsReadable) (page : Option Page) :
    tokens (Statement.select .rows table conditions page).render =
      .keyword .select :: .mark '*' :: .keyword .fromTable :: .word table.toList ::
        (restrictionTokens conditions ++ pageTokens page) := by
  have pageSeparated := separated_page page
  have written : (Statement.select .rows table conditions page).render.toList =
      "SELECT * FROM ".toList ++ (table.toList ++
        ((Condition.renderWhere conditions).toList ++
          ((page.map Page.render).getD "").toList)) := by
    rw [render_select, ← List.append_assoc, ← List.append_assoc]
    simp only [String.toList_append, Projection.render]
    rfl
  rw [tokens, written,
    lex_closed "SELECT * FROM " [.keyword .select, .mark '*', .keyword .fromTable] rfl,
    lex_name named (separated_restriction conditions pageSeparated),
    lex_restriction readable pageSeparated, lex_page]
  rfl

theorem page?_tokens (page : Option Page) : page? (pageTokens page) = some page := by
  cases page with
  | none => rfl
  | some page => simp only [pageTokens, page?, natural?_toDigits]; rfl

theorem tokens_ne_nil {condition : Condition} (readable : condition.IsReadable) :
    condition.tokens ≠ [] := by
  cases condition with
  | verbatim text => exact readable.elim
  | _ => simp [Condition.tokens]

theorem length_le_conjunctionTokens {conditions : List Condition}
    (readable : ∀ condition ∈ conditions, condition.IsReadable) :
    conditions.length ≤ (Condition.conjunctionTokens conditions).length := by
  induction conditions with
  | nil => simp
  | cons first conditions ih =>
      have positive := List.length_pos_iff.mpr (tokens_ne_nil (readable first (by simp)))
      have others := ih fun condition member => readable condition (by simp [member])
      cases conditions with
      | nil => exact positive
      | cons second conditions =>
          simp only [Condition.conjunctionTokens, List.length_append, List.length_cons]
            at others ⊢
          omega

theorem restriction?_tokens {conditions : List Condition}
    (readable : ∀ condition ∈ conditions, condition.IsReadable) (page : Option Page) :
    restriction? (restrictionTokens conditions ++ pageTokens page) =
      some (conditions.map Condition.plain, pageTokens page) := by
  cases conditions with
  | nil => cases page <;> rfl
  | cons first conditions =>
      have ended : (pageTokens page).head? ≠ some (.keyword .and) := by
        cases page <;> simp [pageTokens]
      have enough := length_le_conjunctionTokens readable
      have longer : (Condition.conjunctionTokens (first :: conditions)).length ≤
          (Condition.conjunctionTokens (first :: conditions) ++ pageTokens page).length := by
        rw [List.length_append]
        omega
      exact conditions?_tokens (List.cons_ne_nil first conditions) readable longer
        (Nat.le_trans enough longer) ended

/-- A selection from a table of a plain name, with readable conditions, is what its text
reads as. -/
theorem parse?_render {table : String} (named : IsPlainName table)
    {conditions : List Condition}
    (readable : ∀ condition ∈ conditions, condition.IsReadable) (page : Option Page) :
    parse? (Statement.select .rows table conditions page).render =
      some (.select .rows table (conditions.map Condition.plain) page) := by
  rw [parse?, tokens_select named readable]
  simp only [selection?, restriction?_tokens readable, page?_tokens, String.ofList_toList,
    Option.bind_eq_bind, Option.bind_some]

end Persistence.Sql
