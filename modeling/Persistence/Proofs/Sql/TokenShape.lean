import Mathlib.Data.List.Forall2
import Persistence.Proofs.Sql.LiteralReading

/-!
# Shapes of token streams

Two statements that differ only in the contents of texts and blobs have tokens of the same kinds
in the same places. A literal closes what it opens whatever its contents are, and nothing else
in a statement has a quote.
-/

set_option autoImplicit false

namespace Persistence

/-- The literals differ at most in the contents of a text or a blob. -/
inductive Literal.Alike : Literal → Literal → Prop where
  | null : Alike .null .null
  | integer (value : Int) : Alike (.integer value) (.integer value)
  | real (value : Numeral) : Alike (.real value) (.real value)
  | text (left right : String) : Alike (.text left) (.text right)
  | blob (left right : List UInt8) : Alike (.blob left) (.blob right)

namespace Sql

/-! ## Alike tokens and modes -/

/-- The tokens differ at most in the contents of a text or a blob, and none is unclosed. -/
inductive Token.Alike : Token → Token → Prop where
  | keyword (keyword : Keyword) : Alike (.keyword keyword) (.keyword keyword)
  | word (characters : List Char) : Alike (.word characters) (.word characters)
  | numeral (characters : List Char) : Alike (.numeral characters) (.numeral characters)
  | text (left right : List Char) : Alike (.text left) (.text right)
  | blob (left right : List Char) : Alike (.blob left) (.blob right)
  | mark (character : Char) : Alike (.mark character) (.mark character)

theorem Token.alike_ofWord (characters : List Char) :
    (Token.ofWord characters).Alike (Token.ofWord characters) := by
  unfold ofWord
  cases Keyword.ofSpelling? characters with
  | some keyword => exact .keyword keyword
  | none => exact .word characters

/-- The scanner is inside no text and no blob, and has read the same since the last token but
for the contents of a text. -/
inductive Mode.Alike : Mode → Mode → Prop where
  | between : Alike .between .between
  | word (characters : List Char) : Alike (.word characters) (.word characters)
  | numeral (characters : List Char) : Alike (.numeral characters) (.numeral characters)
  | quote (left right : List Char) : Alike (.quote left) (.quote right)

theorem Mode.Alike.eq_between {mode : Mode} (alike : Mode.between.Alike mode) :
    mode = .between := by
  cases alike
  rfl

theorem Mode.Alike.pending {left right : Mode} (alike : left.Alike right) :
    List.Forall₂ Token.Alike left.pending right.pending := by
  cases alike with
  | between => exact .nil
  | word characters => exact .cons (Token.alike_ofWord characters) .nil
  | numeral characters => exact .cons (.numeral characters) .nil
  | quote left right => exact .cons (.text left right) .nil

def ScansAlike (left right : List Token × Mode) : Prop :=
  List.Forall₂ Token.Alike left.1 right.1 ∧ left.2.Alike right.2

theorem start_alike {character : Char} (unquoted : character ≠ '\'') :
    ScansAlike (start character) (start character) := by
  unfold start
  rw [if_neg unquoted]
  split
  · exact ⟨.nil, .between⟩
  · split
    · exact ⟨.nil, .numeral [character]⟩
    · split
      · exact ⟨.nil, .word [character]⟩
      · exact ⟨.cons (.mark character) .nil, .between⟩

theorem step_alike {left right : Mode} (alike : left.Alike right) {character : Char}
    (unquoted : character ≠ '\'') :
    ScansAlike (step left character) (step right character) := by
  obtain ⟨tokens, mode⟩ := start_alike unquoted
  cases alike with
  | between => exact ⟨tokens, mode⟩
  | word read =>
      simp only [step, unquoted, false_and, ↓reduceIte]
      split
      · exact ⟨.nil, .word _⟩
      · exact ⟨.cons (Token.alike_ofWord read) tokens, mode⟩
  | numeral read =>
      simp only [step]
      split
      · exact ⟨.nil, .numeral _⟩
      · exact ⟨.cons (.numeral read) tokens, mode⟩
  | quote left right =>
      simp only [step, unquoted, ↓reduceIte]
      exact ⟨.cons (.text left right) tokens, mode⟩

theorem scan_alike {left right : Mode} (alike : left.Alike right) {characters : List Char}
    (unquoted : '\'' ∉ characters) :
    ScansAlike (scan left characters) (scan right characters) := by
  induction characters generalizing left right with
  | nil => exact ⟨.nil, alike⟩
  | cons first rest ih =>
      rw [List.mem_cons, not_or] at unquoted
      obtain ⟨tokens, mode⟩ := step_alike alike (Ne.symm unquoted.1)
      obtain ⟨othersTokens, othersMode⟩ := ih mode unquoted.2
      exact ⟨List.rel_append tokens othersTokens, othersMode⟩

/-! ## Alike texts -/

/-- The texts are read alike wherever a literal does not stand open. -/
def TextsAlike (left right : String) : Prop :=
  ∀ before other : Mode, before.Alike other →
    ScansAlike (scan before left.toList) (scan other right.toList)

def IsQuoteless (text : String) : Prop := '\'' ∉ text.toList

instance (text : String) : Decidable (IsQuoteless text) := inferInstanceAs (Decidable (¬ _))

theorem isQuoteless_append {left right : String} :
    IsQuoteless (left ++ right) ↔ IsQuoteless left ∧ IsQuoteless right := by
  simp [IsQuoteless]

namespace TextsAlike

variable {left right other : String}

theorem of_isQuoteless {text : String} (quoteless : IsQuoteless text) : TextsAlike text text :=
  fun _ _ alike => scan_alike alike quoteless

theorem append {otherLeft otherRight : String} (first : TextsAlike left right)
    (second : TextsAlike otherLeft otherRight) :
    TextsAlike (left ++ otherLeft) (right ++ otherRight) := by
  intro before other alike
  obtain ⟨tokens, mode⟩ := first before other alike
  obtain ⟨othersTokens, othersMode⟩ := second _ _ mode
  rw [String.toList_append, String.toList_append, scan_append, scan_append]
  exact ⟨List.rel_append tokens othersTokens, othersMode⟩

theorem tokens (alike : TextsAlike left right) :
    List.Forall₂ Token.Alike (tokens left) (tokens right) := by
  obtain ⟨tokens, mode⟩ := alike .between .between .between
  exact List.rel_append tokens mode.pending

theorem joinWith {separator : String} {lefts rights : List String}
    (quoteless : IsQuoteless separator) (alike : List.Forall₂ TextsAlike lefts rights) :
    TextsAlike (Text.joinWith separator lefts) (Text.joinWith separator rights) := by
  induction alike with
  | nil => exact of_isQuoteless List.not_mem_nil
  | @cons left right lefts rights first others ih =>
      cases others with
      | nil => exact first
      | cons second rest =>
          rw [Text.joinWith_cons_cons, Text.joinWith_cons_cons]
          exact (first.append (of_isQuoteless quoteless)).append ih

end TextsAlike

/-! ## Literals -/

/-- A text behind which a literal can begin: it has no quote and ends in a blank or an opening
parenthesis. -/
def Opens (text : String) : Prop :=
  IsQuoteless text ∧ (text.toList.getLast? = some ' ' ∨ text.toList.getLast? = some '(')

instance (text : String) : Decidable (Opens text) := inferInstanceAs (Decidable (_ ∧ _))

theorem Opens.append {left right : String} (quoteless : IsQuoteless left) (opens : Opens right) :
    Opens (left ++ right) := by
  refine ⟨isQuoteless_append.mpr ⟨quoteless, opens.1⟩, ?_⟩
  rw [String.toList_append, List.getLast?_append]
  rcases opens.2 with blank | parenthesis
  · left
    rw [blank]
    rfl
  · right
    rw [parenthesis]
    rfl

theorem step_blank {left right : Mode} (alike : left.Alike right) :
    (step left ' ').2 = .between := by
  cases alike <;> rfl

theorem step_parenthesis {left right : Mode} (alike : left.Alike right) :
    (step left '(').2 = .between := by
  cases alike <;> rfl

/-- Behind a text that opens a literal the scanner is between two tokens. -/
theorem scan_of_opens {text : String} (opens : Opens text) {left right : Mode}
    (alike : left.Alike right) : (scan left text.toList).2 = .between := by
  obtain ⟨quoteless, last⟩ := opens
  have split : ∃ init character, text.toList = init ++ [character] ∧
      (character = ' ' ∨ character = '(') := by
    rcases last with blank | parenthesis
    · obtain ⟨init, spelled⟩ := List.getLast?_eq_some_iff.mp blank
      exact ⟨init, ' ', spelled, .inl rfl⟩
    · obtain ⟨init, spelled⟩ := List.getLast?_eq_some_iff.mp parenthesis
      exact ⟨init, '(', spelled, .inr rfl⟩
  obtain ⟨init, character, spelled, opening⟩ := split
  rw [IsQuoteless, spelled, List.mem_append, not_or] at quoteless
  obtain ⟨-, mode⟩ := scan_alike alike quoteless.1
  rw [spelled, scan_append]
  rcases opening with rfl | rfl
  · exact step_blank mode
  · exact step_parenthesis mode

theorem quote_not_mem_signed (negative : Bool) {magnitude : List Char}
    (number : IsMagnitude magnitude) : '\'' ∉ signed negative magnitude := by
  obtain ⟨first, rest, rfl, begins, continues⟩ := number
  intro member
  rcases List.mem_append.mp member with inSign | inMagnitude
  · cases negative <;> simp at inSign
  · rcases List.mem_cons.mp inMagnitude with rfl | inRest
    · cases begins
    · rcases continues _ inRest with digit | point
      · cases digit
      · cases point

theorem isQuoteless_integer (value : Int) : IsQuoteless (Literal.integer value).render := by
  rw [IsQuoteless, Literal.render, toList_toString_int]
  exact quote_not_mem_signed _ (isMagnitude_toDigits value.natAbs)

theorem isQuoteless_real (value : Numeral) : IsQuoteless (Literal.real value).render := by
  cases value with
  | finite decimal =>
      rw [IsQuoteless, Literal.render, toList_write_finite, Decimal.digits]
      exact quote_not_mem_signed _ (isMagnitude_positionalDigits _ _)
  | infinite negative => cases negative <;> decide
  | notANumber => decide

/-- Alike literals are read alike from their first characters on, and each is closed at its
end. -/
theorem scan_render_alike {left right : Literal} (alike : left.Alike right) :
    ScansAlike (scan .between left.render.toList) (scan .between right.render.toList) := by
  cases alike with
  | null => exact scan_alike .between (by decide)
  | integer value => exact scan_alike .between (isQuoteless_integer value)
  | real value => exact scan_alike .between (isQuoteless_real value)
  | text left right =>
      rw [Literal.render, Literal.render, scan_quoted, scan_quoted]
      exact ⟨.nil, .quote _ _⟩
  | blob left right =>
      rw [scan_blobLiteral, scan_blobLiteral]
      exact ⟨.cons (.blob _ _) .nil, .between⟩

theorem textsAlike_literal {opening : String} (opens : Opens opening) {left right : Literal}
    (alike : left.Alike right) :
    TextsAlike (opening ++ left.render) (opening ++ right.render) := by
  intro before other modes
  obtain ⟨tokens, mode⟩ := scan_alike modes opens.1
  have leftBetween := scan_of_opens opens modes
  rw [leftBetween] at mode
  have rightBetween := mode.eq_between
  obtain ⟨literalTokens, literalMode⟩ := scan_render_alike alike
  rw [String.toList_append, String.toList_append, scan_append, scan_append, leftBetween,
    rightBetween]
  exact ⟨List.rel_append tokens literalTokens, literalMode⟩

theorem textsAlike_literals {opening : String} (opens : Opens opening)
    {lefts rights : List Literal} (alike : List.Forall₂ Literal.Alike lefts rights) :
    TextsAlike (opening ++ Text.joinWith ", " (lefts.map Literal.render))
      (opening ++ Text.joinWith ", " (rights.map Literal.render)) := by
  -- What opens the other literals is the separator.
  induction alike generalizing opening with
  | nil => exact TextsAlike.append (.of_isQuoteless opens.1) (.of_isQuoteless (by decide))
  | @cons left right lefts rights first others ih =>
      cases others with
      | nil => exact textsAlike_literal opens first
      | cons second rest =>
          have separator : Opens ", " := by decide
          have both := (textsAlike_literal opens first).append (ih separator)
          simpa only [List.map_cons, Text.joinWith_cons_cons, String.append_assoc] using both

theorem textsAlike_renderList {lefts rights : List Literal}
    (alike : List.Forall₂ Literal.Alike lefts rights) :
    TextsAlike (Literal.renderList lefts) (Literal.renderList rights) := by
  have opens : Opens "(" := by decide
  have closing : IsQuoteless ")" := by decide
  exact (textsAlike_literals opens alike).append (.of_isQuoteless closing)

theorem isQuoteless_joinWith {separator : String} {texts : List String}
    (quoteless : IsQuoteless separator) (each : ∀ text ∈ texts, IsQuoteless text) :
    IsQuoteless (Text.joinWith separator texts) := by
  induction texts with
  | nil => exact List.not_mem_nil
  | cons first rest ih =>
      obtain ⟨firstQuoteless, othersQuoteless⟩ := List.forall_mem_cons.mp each
      cases rest with
      | nil => exact firstQuoteless
      | cons second rest =>
          rw [Text.joinWith_cons_cons]
          exact isQuoteless_append.mpr
            ⟨isQuoteless_append.mpr ⟨firstQuoteless, quoteless⟩, ih othersQuoteless⟩

theorem isQuoteless_parenthesized {texts : List String}
    (each : ∀ text ∈ texts, IsQuoteless text) : IsQuoteless (Text.parenthesized texts) := by
  have separator : IsQuoteless ", " := by decide
  exact isQuoteless_append.mpr
    ⟨isQuoteless_append.mpr ⟨by decide, isQuoteless_joinWith separator each⟩, by decide⟩

theorem isQuoteless_symbol (comparison : Comparison) : IsQuoteless comparison.symbol := by
  cases comparison <;> decide

end Sql

/-! ## Conditions and statements -/

open Sql

/-- The conditions compare one column without a quote in its name with alike literals. -/
inductive Condition.Alike : Condition → Condition → Prop where
  | compare {column : String} (quoteless : IsQuoteless column) (comparison : Comparison)
      {left right : Literal} (alike : left.Alike right) :
      Alike (.compare column comparison left) (.compare column comparison right)
  | isIn {column : String} (quoteless : IsQuoteless column) {lefts rights : List Literal}
      (alike : List.Forall₂ Literal.Alike lefts rights) :
      Alike (.isIn column lefts) (.isIn column rights)
  | isNotIn {column : String} (quoteless : IsQuoteless column) {lefts rights : List Literal}
      (alike : List.Forall₂ Literal.Alike lefts rights) :
      Alike (.isNotIn column lefts) (.isNotIn column rights)

theorem Condition.Alike.texts {left right : Condition} (alike : left.Alike right) :
    TextsAlike left.render right.render := by
  cases alike with
  | compare quoteless comparison alike =>
      refine textsAlike_literal (Opens.append ?_ (by decide)) alike
      refine isQuoteless_append.mpr ⟨?_, isQuoteless_symbol comparison⟩
      exact isQuoteless_append.mpr ⟨quoteless, by decide⟩
  | isIn quoteless alike =>
      refine TextsAlike.append (.of_isQuoteless ?_) (textsAlike_renderList alike)
      exact isQuoteless_append.mpr ⟨quoteless, by decide⟩
  | isNotIn quoteless alike =>
      refine TextsAlike.append (.of_isQuoteless ?_) (textsAlike_renderList alike)
      exact isQuoteless_append.mpr ⟨quoteless, by decide⟩

theorem Condition.textsAlike_renderWhere {lefts rights : List Condition}
    (alike : List.Forall₂ Condition.Alike lefts rights) :
    TextsAlike (renderWhere lefts) (renderWhere rights) := by
  have keyword : IsQuoteless " WHERE " := by decide
  have separator : IsQuoteless " AND " := by decide
  have texts : List.Forall₂ TextsAlike (lefts.map render) (rights.map render) := by
    refine List.rel_map ?_ alike
    intro left right alike
    exact alike.texts
  cases alike with
  | nil => exact .of_isQuoteless (by decide)
  | cons first others =>
      exact TextsAlike.append (.of_isQuoteless keyword) (.joinWith separator texts)

def LinkedTable.IsQuoteless (linked : LinkedTable) : Prop :=
  Sql.IsQuoteless linked.table ∧ Sql.IsQuoteless linked.column ∧
    Sql.IsQuoteless linked.joinColumn

/-- The statements have the same names, none with a quote, and alike literals. -/
inductive Statement.Alike : Statement → Statement → Prop where
  | insert {opening table : String} {columns : List String} {lefts rights : List Literal}
      (opened : IsQuoteless opening) (named : IsQuoteless table)
      (each : ∀ column ∈ columns, IsQuoteless column)
      (alike : List.Forall₂ Literal.Alike lefts rights) :
      Alike (.insert opening table columns lefts) (.insert opening table columns rights)
  | update {table : String} {lefts rights : List (String × Literal)} {left right : Condition}
      (named : IsQuoteless table)
      (assigned : List.Forall₂ (fun left right =>
        left.1 = right.1 ∧ IsQuoteless left.1 ∧ left.2.Alike right.2) lefts rights)
      (alike : left.Alike right) :
      Alike (.update table lefts left) (.update table rights right)
  | delete {table : String} {lefts rights : List Condition} (named : IsQuoteless table)
      (alike : List.Forall₂ Condition.Alike lefts rights) :
      Alike (.delete table lefts) (.delete table rights)
  | selectLinked (selectedFirst : Bool) {selected anchor : LinkedTable} {joinTable : String}
      {left right : Literal} (selectedNamed : selected.IsQuoteless)
      (anchorNamed : anchor.IsQuoteless) (named : IsQuoteless joinTable)
      (alike : left.Alike right) :
      Alike (.selectLinked selectedFirst selected anchor joinTable left)
        (.selectLinked selectedFirst selected anchor joinTable right)

theorem Statement.isQuoteless_renderLinkedTables (selectedFirst : Bool)
    {selected anchor : LinkedTable} (selectedNamed : selected.IsQuoteless)
    (anchorNamed : anchor.IsQuoteless) :
    IsQuoteless (renderLinkedTables selectedFirst selected anchor) := by
  have selectedPart : IsQuoteless (selected.table ++ " x") :=
    isQuoteless_append.mpr ⟨selectedNamed.1, by decide⟩
  have anchorPart : IsQuoteless (anchor.table ++ " y") :=
    isQuoteless_append.mpr ⟨anchorNamed.1, by decide⟩
  have separator : IsQuoteless ", " := by decide
  cases selectedFirst with
  | true =>
      exact isQuoteless_append.mpr
        ⟨isQuoteless_append.mpr ⟨selectedPart, separator⟩, anchorPart⟩
  | false =>
      exact isQuoteless_append.mpr
        ⟨isQuoteless_append.mpr ⟨anchorPart, separator⟩, selectedPart⟩

theorem Statement.Alike.texts {left right : Statement} (alike : left.Alike right) :
    TextsAlike left.render right.render := by
  cases alike with
  | insert opened named each alike =>
      refine TextsAlike.append (.of_isQuoteless ?_) (textsAlike_renderList alike)
      simp only [isQuoteless_append, opened, named, isQuoteless_parenthesized each]
      decide
  | @update table lefts rights left right named assigned alike =>
      have restricting : IsQuoteless " WHERE " := by decide
      have separator : IsQuoteless ", " := by decide
      have each : List.Forall₂ TextsAlike
          (lefts.map fun assignment => assignment.1 ++ " = " ++ assignment.2.render)
          (rights.map fun assignment => assignment.1 ++ " = " ++ assignment.2.render) := by
        refine List.rel_map ?_ assigned
        rintro ⟨column, left⟩ ⟨_, right⟩ ⟨rfl, quoteless, alike⟩
        exact textsAlike_literal (.append quoteless (by decide)) alike
      refine TextsAlike.append (.append (.append (.of_isQuoteless ?_) ?_) ?_) alike.texts
      · simp only [isQuoteless_append, named]
        decide
      · exact .joinWith separator each
      · exact .of_isQuoteless restricting
  | delete named alike =>
      refine TextsAlike.append (.of_isQuoteless ?_) (Condition.textsAlike_renderWhere alike)
      exact isQuoteless_append.mpr ⟨by decide, named⟩
  | selectLinked selectedFirst selectedNamed anchorNamed named alike =>
      have tables :=
        Statement.isQuoteless_renderLinkedTables selectedFirst selectedNamed anchorNamed
      obtain ⟨-, selectedColumn, selectedJoin⟩ := selectedNamed
      obtain ⟨-, anchorColumn, anchorJoin⟩ := anchorNamed
      refine textsAlike_literal (Opens.append ?_ (by decide)) alike
      simp only [isQuoteless_append, tables, named, selectedColumn, selectedJoin, anchorColumn,
        anchorJoin]
      decide

end Persistence
