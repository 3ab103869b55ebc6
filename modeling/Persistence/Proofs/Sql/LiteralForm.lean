import Persistence.CommandLine.Filter
import Persistence.Proofs.Sql.QueryReading

/-!
# Forms of literals

Which texts SQL takes for one literal, and which values are written as one. Every value is, but
for floats that are no finite number and are not bound to text: their names stand bare, where
SQL takes them for names of columns. A filter gives such a float for more than those names, as
a decimal can lie beyond all finite floats.
-/

set_option autoImplicit false

namespace Persistence

namespace Sql

/-! ## Forms -/

/-- Digits, and behind a point more of them. -/
inductive MagnitudeForm : List Char → Prop where
  | whole {digits : List Char} (nonempty : digits ≠ []) (plain : AllDigits digits) :
      MagnitudeForm digits
  | fraction {digits decimals : List Char} (nonempty : digits ≠ []) (plain : AllDigits digits)
      (decimalsNonempty : decimals ≠ []) (decimalsPlain : AllDigits decimals) :
      MagnitudeForm (digits ++ '.' :: decimals)

/-- Characters between quotes, where a quote is written twice. -/
inductive QuotedForm : List Char → Prop where
  | nil : QuotedForm []
  | quote {rest : List Char} : QuotedForm rest → QuotedForm ('\'' :: '\'' :: rest)
  | other {character : Char} {rest : List Char} (unquoted : character ≠ '\'') :
      QuotedForm rest → QuotedForm (character :: rest)

/-- Hexadecimal digits, two for each byte. -/
inductive HexadecimalForm : List Char → Prop where
  | nil : HexadecimalForm []
  | byte {high low : Char} {rest : List Char}
      (isHigh : (Text.Hexadecimal.digitValue? high).isSome = true)
      (isLow : (Text.Hexadecimal.digitValue? low).isSome = true) :
      HexadecimalForm rest → HexadecimalForm (high :: low :: rest)

inductive LiteralForm : List Char → Prop where
  | null : LiteralForm ['N', 'U', 'L', 'L']
  | numeral {magnitude : List Char} (negative : Bool) (form : MagnitudeForm magnitude) :
      LiteralForm (signed negative magnitude)
  | text {contents : List Char} (form : QuotedForm contents) :
      LiteralForm ('\'' :: (contents ++ ['\'']))
  | blob {contents : List Char} (form : HexadecimalForm contents) :
      LiteralForm ('X' :: '\'' :: (contents ++ ['\'']))

theorem MagnitudeForm.exists_digit {characters : List Char} (form : MagnitudeForm characters) :
    ∃ first rest, characters = first :: rest ∧ first.isDigit = true := by
  cases form with
  | whole nonempty plain =>
      obtain ⟨first, rest, rfl⟩ := List.exists_cons_of_ne_nil nonempty
      exact ⟨first, rest, rfl, plain first List.mem_cons_self⟩
  | fraction nonempty plain _ _ =>
      obtain ⟨first, rest, rfl⟩ := List.exists_cons_of_ne_nil nonempty
      exact ⟨first, _, rfl, plain first List.mem_cons_self⟩

theorem LiteralForm.begins {characters : List Char} (form : LiteralForm characters) :
    characters = ['N', 'U', 'L', 'L'] ∨
      ∃ first rest, characters = first :: rest ∧
        (first.isDigit = true ∨ first = '\'' ∨ first = 'X' ∨
          first = '-' ∧ ∃ next, rest.head? = some next ∧ next.isDigit = true) := by
  cases form with
  | null => exact .inl rfl
  | numeral negative form =>
      obtain ⟨first, rest, rfl, digit⟩ := form.exists_digit
      cases negative with
      | false => exact .inr ⟨first, rest, rfl, .inl digit⟩
      | true => exact .inr ⟨'-', first :: rest, rfl, .inr (.inr (.inr ⟨rfl, first, rfl, digit⟩))⟩
  | text form => exact .inr ⟨'\'', _, rfl, .inr (.inl rfl)⟩
  | blob form => exact .inr ⟨'X', _, rfl, .inr (.inr (.inl rfl))⟩

/-- The names of floats that are no finite number. -/
def bareNames : List String := ["NaN", "inf", "-inf"]

theorem not_literalForm_of_mem_bareNames {name : String} (bare : name ∈ bareNames) :
    ¬ LiteralForm name.toList := by
  intro form
  have begins := form.begins
  simp only [bareNames, List.mem_cons, List.not_mem_nil, or_false] at bare
  rcases bare with rfl | rfl | rfl
  · simp at begins
  · simp at begins
  · simp at begins

/-! ## Literals that are written -/

theorem magnitudeForm_positionalDigits (coefficient : Nat) (exponent : Int) :
    MagnitudeForm
      (Decimal.positionalDigits false (Nat.toDigits 10 coefficient) exponent) := by
  have digits := allDigits_toDigits coefficient
  unfold Decimal.positionalDigits
  by_cases whole : 0 ≤ exponent
  · simp only [whole, ↓reduceIte, Bool.false_eq_true, List.append_nil]
    exact .whole (List.append_ne_nil_of_left_ne_nil (toDigits_ne_nil coefficient) _)
      (allDigits_append digits (allDigits_zeros _))
  · simp only [whole, ↓reduceIte]
    by_cases inside : (-exponent).toNat < (Nat.toDigits 10 coefficient).length
    · simp only [inside, ↓reduceIte, List.append_assoc, List.singleton_append]
      refine .fraction ?_ ?_ ?_ ?_
      · refine List.ne_nil_of_length_pos ?_
        rw [List.length_take]
        omega
      · exact fun character member => digits character (List.mem_of_mem_take member)
      · refine List.ne_nil_of_length_pos ?_
        rw [List.length_drop]
        omega
      · exact fun character member => digits character (List.mem_of_mem_drop member)
    · simp only [inside, ↓reduceIte, List.cons_append, List.nil_append]
      exact .fraction (List.cons_ne_nil '0' []) (allDigits_zeros 1)
        (List.append_ne_nil_of_right_ne_nil _ (toDigits_ne_nil coefficient))
        (allDigits_append (allDigits_zeros _) digits)

theorem quotedForm_doubleQuotes (characters : List Char) :
    QuotedForm (doubleQuotes characters) := by
  induction characters with
  | nil => exact .nil
  | cons first rest ih =>
      by_cases quote : first = '\''
      · subst quote
        exact .quote ih
      · rw [doubleQuotes]
        · exact .other quote ih
        · exact quote

theorem hexadecimalForm_encode (bytes : List UInt8) :
    HexadecimalForm (Text.Hexadecimal.encode bytes).toList := by
  rw [Text.Hexadecimal.encode, String.toList_ofList]
  induction bytes with
  | nil => exact .nil
  | cons byte bytes ih =>
      have bound := byte.toNat_lt
      have high := digitValue?_digit (byte.toNat / 16) (by omega)
      have low := digitValue?_digit (byte.toNat % 16) (by omega)
      rw [List.flatMap_cons, fixedDigits_byte]
      exact .byte (by rw [high]; rfl) (by rw [low]; rfl) ih

theorem literalForm_render {literal : Literal} (finite : literal.isFinite = true) :
    LiteralForm literal.render.toList := by
  cases literal with
  | null => exact .null
  | integer value =>
      rw [Literal.render, toList_toString_int]
      exact .numeral _ (.whole (toDigits_ne_nil _) (allDigits_toDigits _))
  | real value =>
      cases value with
      | finite decimal =>
          rw [Literal.render, toList_write_finite, Decimal.digits]
          exact .numeral _ (magnitudeForm_positionalDigits _ _)
      | infinite negative => cases finite
      | notANumber => cases finite
  | text contents =>
      rw [Literal.render, quoted, String.toList_ofList]
      exact .text (quotedForm_doubleQuotes _)
  | blob contents =>
      rw [Literal.render, String.toList_append, String.toList_append]
      exact .blob (hexadecimalForm_encode contents)

theorem render_mem_bareNames {literal : Literal} (infinite : literal.isFinite = false) :
    literal.render ∈ bareNames := by
  cases literal with
  | real value =>
      cases value with
      | finite decimal => cases infinite
      | infinite negative => cases negative <;> decide
      | notANumber => decide
  | _ => cases infinite

theorem literalForm_iff_isFinite (literal : Literal) :
    LiteralForm literal.render.toList ↔ literal.isFinite = true := by
  constructor
  · intro form
    by_contra infinite
    rw [Bool.not_eq_true] at infinite
    exact not_literalForm_of_mem_bareNames (render_mem_bareNames infinite) form
  · exact literalForm_render

end Sql

/-! ## Values -/

theorem Binary.isFinite_of_shortest {format : BinaryFormat} {number : Binary format}
    {tie : TieRule} (finite : (Literal.real (number.shortest tie)).isFinite = true) :
    number.isFinite = true := by
  unfold Binary.shortest at finite
  unfold Binary.isFinite
  cases read : number.reading with
  | notANumber => simp [read, Literal.isFinite] at finite
  | infinite negative => simp [read, Literal.isFinite] at finite
  | finite negative significand exponent => rfl

namespace Value

theorem isFinite_of_literal {value : Value} (finite : value.literal.isFinite = true) :
    value.isFinite = true := by
  cases value with
  | float32 number => exact Binary.isFinite_of_shortest finite
  | float64 number => exact Binary.isFinite_of_shortest finite
  | _ => rfl

theorem isFinite_literalAs_iff (value : Value) (type : StorageType) :
    (value.literalAs type).isFinite = true ↔ type = .text ∨ value.isFinite = true := by
  constructor
  · intro finite
    by_cases text : type = .text
    · exact .inl text
    · rw [literalAs_of_ne_text text] at finite
      exact .inr (isFinite_of_literal finite)
  · rintro (rfl | finite)
    · cases value <;> rfl
    · exact isFinite_literalAs finite type

end Value

/-! ## Filters -/

namespace CommandLine

theorem isFinite_infinity (negative : Bool) :
    (Binary.infinity negative : Binary64).isFinite = false := by
  cases negative <;> decide

theorem isFinite_notANumber : (Binary.notANumber : Binary64).isFinite = false := by
  decide

/-- The number that a filter gives for a field of floats is finite exactly if the text spells a
decimal whose nearest double is. -/
theorem isFinite_scalarValue_iff {scalar : ScalarType}
    (float : scalar = .float32 ∨ scalar = .float64) {text : String} {value : Value}
    (read : scalarValue scalar text = .ok value) :
    value.isFinite = true ↔ ∃ decimal, Number.numeral? text = some (.finite decimal) ∧
      (Binary.ofDecimal .double decimal).isFinite = true := by
  obtain ⟨numeral, spelt, rfl⟩ : ∃ numeral, Number.numeral? text = some numeral ∧
      value = .float64 (.ofNumeral .double numeral) := by
    cases spelt : Number.numeral? text with
    | none => rcases float with rfl | rfl <;> simp [scalarValue, spelt] at read
    | some numeral =>
        refine ⟨numeral, rfl, ?_⟩
        rcases float with rfl | rfl <;> simpa [scalarValue, spelt, eq_comm] using read
  rw [spelt]
  cases numeral with
  | finite decimal => simp [Value.isFinite, Binary.ofNumeral]
  | infinite negative => simp [Value.isFinite, Binary.ofNumeral, isFinite_infinity]
  | notANumber => simp [Value.isFinite, Binary.ofNumeral, isFinite_notANumber]

end CommandLine

/-! ## Rendered values -/

namespace Value

/-- A value is written as a literal exactly if it is bound to text or is anything but a float
that is no finite number. What is written otherwise is a bare name. -/
theorem literalForm_iff (value : Value) (type : StorageType) :
    (Sql.LiteralForm (value.literalAs type).render.toList ↔
        type = .text ∨ value.isFinite = true) ∧
      (Sql.LiteralForm (value.literalAs type).render.toList ∨
        (value.literalAs type).render ∈ Sql.bareNames) := by
  constructor
  · rw [Sql.literalForm_iff_isFinite, isFinite_literalAs_iff]
  · cases finite : (value.literalAs type).isFinite with
    | true => exact .inl (Sql.literalForm_render finite)
    | false => exact .inr (Sql.render_mem_bareNames finite)

/-- What a filter reads as no number is written as a bare word. -/
theorem not_literalForm_nan :
    ∃ value, CommandLine.scalarValue .float64 "nan" = .ok value ∧
      (value.literalAs .real).render = "NaN" ∧
      ¬ Sql.LiteralForm (value.literalAs .real).render.toList := by
  have written : ((Value.float64 .notANumber).literalAs .real).render = "NaN" := by decide
  refine ⟨.float64 .notANumber, by decide, written, ?_⟩
  rw [written]
  exact Sql.not_literalForm_of_mem_bareNames (by decide)

/-- The number of a filter is written as a literal exactly if it is bound to text, or if its
text spells a decimal that is not beyond all finite doubles. -/
theorem literalForm_filter_iff {scalar : ScalarType}
    (float : scalar = .float32 ∨ scalar = .float64) {text : String} {value : Value}
    (read : CommandLine.scalarValue scalar text = .ok value) (type : StorageType) :
    Sql.LiteralForm (value.literalAs type).render.toList ↔
      type = .text ∨ ∃ decimal, Number.numeral? text = some (.finite decimal) ∧
        (Binary.ofDecimal .double decimal).isFinite = true := by
  rw [Sql.literalForm_iff_isFinite, isFinite_literalAs_iff,
    CommandLine.isFinite_scalarValue_iff float read]

end Value

end Persistence
