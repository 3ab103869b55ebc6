import Persistence.Proofs.Sql.LiteralReading

/-!
# Conditions read back

The text of a condition is one row of tokens whatever follows it, and the parser takes exactly
these tokens back to the condition. The word that joins the bounds of a range is taken with the
range, so that it is never the word that joins two conditions.
-/

set_option autoImplicit false

namespace Persistence

/-! ## What is read back -/

def Comparison.tokens (comparison : Comparison) : List Sql.Token :=
  comparison.symbol.toList.map .mark

namespace Literal

/-- The tokens of further literals of a list and its closing parenthesis. -/
def moreTokens : List Literal → List Sql.Token
  | [] => [.mark ')']
  | first :: rest => .mark ',' :: first.token :: moreTokens rest

/-- The tokens of a list of literals behind its opening parenthesis. -/
def listTokens : List Literal → List Sql.Token
  | [] => [.mark ')']
  | first :: rest => first.token :: moreTokens rest

end Literal

namespace Condition

def tokens : Condition → List Sql.Token
  | .compare column comparison value =>
      .word column.toList :: (comparison.tokens ++ [value.token])
  | .between column low high =>
      [.word column.toList, .keyword .between, low.token, .keyword .and, high.token]
  | .isIn column values =>
      .word column.toList :: .keyword .isIn :: .mark '(' :: Literal.listTokens values
  | .isNotIn column values =>
      .word column.toList :: .keyword .not :: .keyword .isIn :: .mark '(' ::
        Literal.listTokens values
  | .like column pattern => [.word column.toList, .keyword .like, pattern.token]
  | .isNull column => [.word column.toList, .keyword .is, .keyword .null]
  | .isNotNull column => [.word column.toList, .keyword .is, .keyword .not, .keyword .null]
  | .both left right =>
      .mark '(' :: (left.tokens ++ .keyword .and :: (right.tokens ++ [.mark ')']))
  | .either left right =>
      .mark '(' :: (left.tokens ++ .keyword .or :: (right.tokens ++ [.mark ')']))
  | .verbatim _ => []

def conjunctionTokens : List Condition → List Sql.Token
  | [] => []
  | [last] => last.tokens
  | first :: second :: rest =>
      first.tokens ++ .keyword .and :: conjunctionTokens (second :: rest)

def plain : Condition → Condition
  | .compare column comparison value => .compare column comparison value.plain
  | .between column low high => .between column low.plain high.plain
  | .isIn column values => .isIn column (values.map Literal.plain)
  | .isNotIn column values => .isNotIn column (values.map Literal.plain)
  | .like column pattern => .like column pattern.plain
  | .isNull column => .isNull column
  | .isNotNull column => .isNotNull column
  | .both left right => .both left.plain right.plain
  | .either left right => .either left.plain right.plain
  | .verbatim text => .verbatim text

/-- A condition on columns with plain names that compares them with finite literals only and
holds no text of its own. -/
def IsReadable : Condition → Prop
  | .compare column _ value => Sql.IsPlainName column ∧ value.isFinite = true
  | .between column low high =>
      Sql.IsPlainName column ∧ low.isFinite = true ∧ high.isFinite = true
  | .isIn column values | .isNotIn column values =>
      Sql.IsPlainName column ∧ ∀ value ∈ values, value.isFinite = true
  | .like column pattern => Sql.IsPlainName column ∧ pattern.isFinite = true
  | .isNull column | .isNotNull column => Sql.IsPlainName column
  | .both left right | .either left right => left.IsReadable ∧ right.IsReadable
  | .verbatim _ => False

end Condition

namespace Sql

/-! ## From text to tokens -/

theorem lex_comparison (comparison : Comparison) (rest : List Char) :
    lex .between ((" " ++ comparison.symbol ++ " ").toList ++ rest) =
      comparison.tokens ++ lex .between rest := by
  refine lex_closed _ _ ?_ rest
  cases comparison <;> rfl

theorem lex_literals {values : List Literal} {rest : List Char}
    (finite : ∀ value ∈ values, value.isFinite = true) :
    lex .between
        ((Text.joinWith ", " (values.map Literal.render)).toList ++ (")".toList ++ rest)) =
      Literal.listTokens values ++ lex .between rest := by
  induction values with
  | nil => rfl
  | cons first values ih =>
      have firstFinite := finite first (by simp)
      have othersFinite : ∀ value ∈ values, value.isFinite = true :=
        fun value member => finite value (by simp [member])
      cases values with
      | nil => exact lex_literal firstFinite rfl
      | cons second values =>
          simp only [List.map_cons, Text.joinWith_cons_cons, String.toList_append,
            List.append_assoc] at ih ⊢
          rw [lex_literal firstFinite, lex_closed ", " [.mark ','] rfl, ih othersFinite] <;> rfl

theorem lex_renderList {values : List Literal}
    (finite : ∀ value ∈ values, value.isFinite = true) (rest : List Char) :
    lex .between ((Literal.renderList values).toList ++ rest) =
      .mark '(' :: (Literal.listTokens values ++ lex .between rest) := by
  simp only [Literal.renderList, Text.parenthesized, String.toList_append, List.append_assoc]
  rw [lex_closed "(" [.mark '('] rfl, lex_literals finite]
  rfl

/-- Two conditions in parentheses are read on their own, whichever word joins them. -/
private theorem lex_pair {left right : Condition} (connective : String) (keyword : Keyword)
    (scanned : scan .between connective.toList = ([.keyword keyword], .between))
    (separates : ∀ rest, Separated (connective.toList ++ rest))
    (leftRead : ∀ {rest}, Separated rest →
      lex .between (left.render.toList ++ rest) = left.tokens ++ lex .between rest)
    (rightRead : ∀ {rest}, Separated rest →
      lex .between (right.render.toList ++ rest) = right.tokens ++ lex .between rest)
    (rest : List Char) :
    lex .between
        (("(" ++ left.render ++ connective ++ right.render ++ ")").toList ++ rest) =
      .mark '(' :: (left.tokens ++ .keyword keyword :: (right.tokens ++ [.mark ')'])) ++
        lex .between rest := by
  have closed : Separated (")".toList ++ rest) := rfl
  simp only [String.toList_append, List.append_assoc]
  rw [lex_closed "(" [.mark '('] rfl, leftRead (separates _),
    lex_closed connective [.keyword keyword] scanned, rightRead closed,
    lex_closed ")" [.mark ')'] rfl]
  simp only [List.cons_append, List.append_assoc, List.nil_append]

/-- The text of a condition before a separator is its tokens. -/
theorem lex_condition {condition : Condition} (readable : condition.IsReadable)
    {rest : List Char} (separated : Separated rest) :
    lex .between (condition.render.toList ++ rest) =
      condition.tokens ++ lex .between rest := by
  induction condition generalizing rest with
  | compare column comparison value =>
      obtain ⟨named, finite⟩ := readable
      have written : (Condition.compare column comparison value).render =
          column ++ ((" " ++ comparison.symbol ++ " ") ++ value.render) := by
        simp only [Condition.render, String.append_assoc]
      have blank : Separated
          ((" " ++ comparison.symbol ++ " ").toList ++ (value.render.toList ++ rest)) := by
        cases comparison <;> rfl
      rw [written, String.toList_append, List.append_assoc, String.toList_append,
        List.append_assoc, lex_name named blank, lex_comparison, lex_literal finite separated]
      simp only [Condition.tokens, List.cons_append, List.append_assoc, List.nil_append]
  | between column low high =>
      obtain ⟨named, lowFinite, highFinite⟩ := readable
      simp only [Condition.render, String.toList_append, List.append_assoc]
      rw [lex_name named, lex_closed " BETWEEN " [.keyword .between] rfl,
        lex_literal lowFinite, lex_closed " AND " [.keyword .and] rfl,
        lex_literal highFinite separated] <;> rfl
  | isIn column values =>
      obtain ⟨named, finite⟩ := readable
      simp only [Condition.render, String.toList_append, List.append_assoc]
      rw [lex_name named, lex_closed " IN " [.keyword .isIn] rfl, lex_renderList finite] <;> rfl
  | isNotIn column values =>
      obtain ⟨named, finite⟩ := readable
      simp only [Condition.render, String.toList_append, List.append_assoc]
      rw [lex_name named, lex_closed " NOT IN " [.keyword .not, .keyword .isIn] rfl,
        lex_renderList finite] <;> rfl
  | like column pattern =>
      obtain ⟨named, finite⟩ := readable
      simp only [Condition.render, String.toList_append, List.append_assoc]
      rw [lex_name named, lex_closed " LIKE " [.keyword .like] rfl,
        lex_literal finite separated] <;> rfl
  | isNull column =>
      have scanned : scan .between " IS NULL".toList =
          ([.keyword .is], .word ['N', 'U', 'L', 'L']) := rfl
      simp only [Condition.render, String.toList_append, List.append_assoc]
      rw [lex_name readable, lex_open _ scanned trivial separated] <;> rfl
  | isNotNull column =>
      have scanned : scan .between " IS NOT NULL".toList =
          ([.keyword .is, .keyword .not], .word ['N', 'U', 'L', 'L']) := rfl
      simp only [Condition.render, String.toList_append, List.append_assoc]
      rw [lex_name readable, lex_open _ scanned trivial separated] <;> rfl
  | both left right leftIH rightIH =>
      exact lex_pair " AND " .and rfl (fun _ => rfl) (leftIH readable.1) (rightIH readable.2) rest
  | either left right leftIH rightIH =>
      exact lex_pair " OR " .or rfl (fun _ => rfl) (leftIH readable.1) (rightIH readable.2) rest
  | verbatim text => exact readable.elim

theorem lex_conjunction {conditions : List Condition}
    (readable : ∀ condition ∈ conditions, condition.IsReadable) {rest : List Char}
    (separated : Separated rest) :
    lex .between
        ((Text.joinWith " AND " (conditions.map Condition.render)).toList ++ rest) =
      Condition.conjunctionTokens conditions ++ lex .between rest := by
  induction conditions with
  | nil => rfl
  | cons first conditions ih =>
      have firstReadable := readable first (by simp)
      have othersReadable : ∀ condition ∈ conditions, condition.IsReadable :=
        fun condition member => readable condition (by simp [member])
      cases conditions with
      | nil => exact lex_condition firstReadable separated
      | cons second conditions =>
          simp only [List.map_cons, Text.joinWith_cons_cons, String.toList_append,
            List.append_assoc] at ih ⊢
          rw [lex_condition firstReadable, lex_closed " AND " [.keyword .and] rfl,
            ih othersReadable]
          · simp only [Condition.conjunctionTokens, List.append_assoc, List.cons_append,
              List.nil_append]
          · rfl

/-! ## From tokens to conditions -/

theorem comparison?_tokens (comparison : Comparison) (value : Literal) (rest : List Token) :
    comparison? (comparison.tokens ++ value.token :: rest) =
      some (comparison, value.token :: rest) := by
  cases comparison <;> cases value <;> rfl

theorem moreLiterals?_tokens {values : List Literal} {rest : List Token}
    (finite : ∀ value ∈ values, value.isFinite = true) :
    moreLiterals? (Literal.moreTokens values ++ rest) = some (values.map Literal.plain, rest) := by
  induction values with
  | nil => rfl
  | cons first values ih =>
      have others := ih fun value member => finite value (by simp [member])
      simp only [Literal.moreTokens, List.cons_append, moreLiterals?,
        literal?_token (finite first (by simp)), others, Option.bind_eq_bind, Option.bind_some,
        List.map_cons]

theorem literals?_tokens {values : List Literal} {rest : List Token}
    (finite : ∀ value ∈ values, value.isFinite = true) :
    literals? (Literal.listTokens values ++ rest) = some (values.map Literal.plain, rest) := by
  cases values with
  | nil => rfl
  | cons first values =>
      have read := literal?_token (finite first (by simp))
      have others : moreLiterals? (Literal.moreTokens values ++ rest) =
          some (values.map Literal.plain, rest) :=
        moreLiterals?_tokens fun value member => finite value (List.mem_cons_of_mem first member)
      cases first <;> simp_all [Literal.listTokens, literals?, Literal.token]

theorem predicate?_comparison (column : String) (comparison : Comparison) {value : Literal}
    (finite : value.isFinite = true) (rest : List Token) :
    predicate? column (comparison.tokens ++ value.token :: rest) =
      some (.compare column comparison value.plain, rest) := by
  have sign := comparison?_tokens comparison value rest
  obtain ⟨character, others, spelled⟩ : ∃ character others,
      comparison.tokens = .mark character :: others := by
    cases comparison <;> exact ⟨_, _, rfl⟩
  rw [spelled, List.cons_append] at sign ⊢
  simp only [predicate?, sign, literal?_token finite, Option.bind_eq_bind, Option.bind_some]

theorem condition?_word {depth : Nat} (positive : 0 < depth) (column : String)
    (rest : List Token) :
    condition? depth (.word column.toList :: rest) = predicate? column rest := by
  cases depth with
  | zero => exact absurd positive (by decide)
  | succ depth => simp only [condition?, String.ofList_toList]

private theorem condition?_pair {left right : Condition} {depth : Nat}
    (leftRead : ∀ {depth}, left.tokens.length ≤ depth →
      ∀ rest, condition? depth (left.tokens ++ rest) = some (left.plain, rest))
    (rightRead : ∀ {depth}, right.tokens.length ≤ depth →
      ∀ rest, condition? depth (right.tokens ++ rest) = some (right.plain, rest))
    (enough : left.tokens.length + right.tokens.length < depth) (rest : List Token) :
    condition? depth ((Condition.both left right).tokens ++ rest) =
        some (.both left.plain right.plain, rest) ∧
      condition? depth ((Condition.either left right).tokens ++ rest) =
        some (.either left.plain right.plain, rest) := by
  obtain ⟨depth, rfl⟩ : ∃ smaller, depth = smaller + 1 := ⟨depth - 1, by omega⟩
  have leftFirst := leftRead (show left.tokens.length ≤ depth by omega)
  have rightNext := rightRead (show right.tokens.length ≤ depth by omega)
  constructor <;>
    simp only [Condition.tokens, List.cons_append, List.append_assoc, condition?, leftFirst,
      rightNext, closing?, Option.bind_eq_bind, Option.bind_some, List.nil_append]

/-- The tokens of a condition read as the condition, whatever follows them. The bound on the
depth is used up by the parentheses of pairs alone. -/
theorem condition?_tokens {condition : Condition} (readable : condition.IsReadable)
    {depth : Nat} (enough : condition.tokens.length ≤ depth) (rest : List Token) :
    condition? depth (condition.tokens ++ rest) = some (condition.plain, rest) := by
  induction condition generalizing depth rest with
  | compare column comparison value =>
      have positive := Nat.lt_of_lt_of_le (Nat.zero_lt_succ _) enough
      simp only [Condition.tokens, List.cons_append, condition?_word positive,
        List.append_assoc, List.nil_append]
      exact predicate?_comparison column comparison readable.2 rest
  | between column low high =>
      obtain ⟨-, lowFinite, highFinite⟩ := readable
      have positive := Nat.lt_of_lt_of_le (Nat.zero_lt_succ _) enough
      simp only [Condition.tokens, List.cons_append, condition?_word positive,
        List.nil_append, predicate?, literal?_token lowFinite, literal?_token highFinite]
      rfl
  | isIn column values =>
      have positive := Nat.lt_of_lt_of_le (Nat.zero_lt_succ _) enough
      simp only [Condition.tokens, List.cons_append, condition?_word positive, predicate?,
        literals?_tokens readable.2]
      rfl
  | isNotIn column values =>
      have positive := Nat.lt_of_lt_of_le (Nat.zero_lt_succ _) enough
      simp only [Condition.tokens, List.cons_append, condition?_word positive, predicate?,
        literals?_tokens readable.2]
      rfl
  | like column pattern =>
      have positive := Nat.lt_of_lt_of_le (Nat.zero_lt_succ _) enough
      simp only [Condition.tokens, List.cons_append, condition?_word positive,
        List.nil_append, predicate?, literal?_token readable.2]
      rfl
  | isNull column =>
      have positive := Nat.lt_of_lt_of_le (Nat.zero_lt_succ _) enough
      simp only [Condition.tokens, List.cons_append, condition?_word positive]
      rfl
  | isNotNull column =>
      have positive := Nat.lt_of_lt_of_le (Nat.zero_lt_succ _) enough
      simp only [Condition.tokens, List.cons_append, condition?_word positive]
      rfl
  | both left right leftIH rightIH =>
      simp only [Condition.tokens, List.length_cons, List.length_append] at enough
      exact (condition?_pair (leftIH readable.1) (rightIH readable.2) (by omega) rest).1
  | either left right leftIH rightIH =>
      simp only [Condition.tokens, List.length_cons, List.length_append] at enough
      exact (condition?_pair (leftIH readable.1) (rightIH readable.2) (by omega) rest).2
  | verbatim text => exact readable.elim

/-- Joined conditions read one by one: a condition ends before the word for "and", so that this
word is what joins it with the next. -/
theorem conditions?_tokens {conditions : List Condition} (nonempty : conditions ≠ [])
    (readable : ∀ condition ∈ conditions, condition.IsReadable) {depth count : Nat}
    (deepEnough : (Condition.conjunctionTokens conditions).length ≤ depth)
    (manyEnough : conditions.length ≤ count) {rest : List Token}
    (ended : rest.head? ≠ some (.keyword .and)) :
    conditions? depth count (Condition.conjunctionTokens conditions ++ rest) =
      some (conditions.map Condition.plain, rest) := by
  induction conditions generalizing count with
  | nil => exact absurd rfl nonempty
  | cons first conditions ih =>
      obtain ⟨count, rfl⟩ : ∃ fewer, count = fewer + 1 := ⟨count - 1, by
        simp only [List.length_cons] at manyEnough
        omega⟩
      have firstReadable := readable first (by simp)
      cases conditions with
      | nil =>
          have read := condition?_tokens firstReadable deepEnough rest
          simp only [Condition.conjunctionTokens, conditions?, read, Option.bind_eq_bind,
            Option.bind_some, List.map_cons, List.map_nil]
          split
          · exact absurd rfl ended
          · rfl
      | cons second conditions =>
          simp only [Condition.conjunctionTokens, List.length_append, List.length_cons]
            at deepEnough manyEnough
          have firstRead : ∀ rest,
              condition? depth (first.tokens ++ rest) = some (first.plain, rest) :=
            condition?_tokens firstReadable (by omega)
          have othersRead : conditions? depth count
                (Condition.conjunctionTokens (second :: conditions) ++ rest) =
              some ((second :: conditions).map Condition.plain, rest) :=
            ih (List.cons_ne_nil second conditions)
              (fun condition member => readable condition (by simp [member])) (by omega)
              (by simp only [List.length_cons]; omega)
          simp only [Condition.conjunctionTokens, List.append_assoc, List.cons_append,
            conditions?, firstRead, othersRead, Option.bind_eq_bind, Option.bind_some,
            List.map_cons]

end Sql

end Persistence
