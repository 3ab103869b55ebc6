import Mathlib.Data.List.TakeWhile
import Persistence.Proofs.Sql.Grammar

/-!
# Literals read back

Every literal but a float that is no number is one token, which reads as the literal with its
number in plain decimal form. What is read is the very number, text or blob that was written.
-/

set_option autoImplicit false

namespace Persistence

-- Powers are those of the core library, whichever other instances are imported.
attribute [local instance (2000)] instPowNat

/-! ## What is read back -/

/-- The same number with the power of ten of its last written digit: zeros up to the point
are digits of the coefficient. -/
def Decimal.plain (decimal : Decimal) : Decimal :=
  if 0 ≤ decimal.exponent then
    ⟨decimal.negative, decimal.coefficient * 10 ^ decimal.exponent.toNat, 0⟩
  else decimal

namespace Literal

/-- Whether the literal is anything but an infinity or not a number. -/
def isFinite : Literal → Bool
  | .real (.finite _) => true
  | .real _ => false
  | _ => true

def plain : Literal → Literal
  | .integer value => .real (.finite ⟨value < 0, value.natAbs, 0⟩)
  | .real (.finite decimal) => .real (.finite decimal.plain)
  | literal => literal

def token : Literal → Sql.Token
  | .null => .keyword .null
  | .integer value => .numeral (toString value).toList
  | .real value => .numeral (value.write statementLayout).toList
  | .text contents => .text contents.toList
  | .blob contents => .blob (Text.Hexadecimal.encode contents).toList

end Literal

namespace Sql

/-! ## Digits -/

def AllDigits (characters : List Char) : Prop :=
  ∀ character ∈ characters, character.isDigit = true

theorem allDigits_append {left right : List Char} (leftDigits : AllDigits left)
    (rightDigits : AllDigits right) : AllDigits (left ++ right) := by
  intro character member
  rcases List.mem_append.mp member with inLeft | inRight
  · exact leftDigits character inLeft
  · exact rightDigits character inRight

theorem allDigits_toDigits (value : Nat) : AllDigits (Nat.toDigits 10 value) :=
  fun _ member => Nat.isDigit_of_mem_toDigits (by decide) (by decide) member

theorem allDigits_zeros (count : Nat) : AllDigits (List.replicate count '0') := by
  intro character member
  rw [List.eq_of_mem_replicate member]
  rfl

theorem toDigits_ne_nil (value : Nat) : Nat.toDigits 10 value ≠ [] :=
  List.ne_nil_of_length_pos Nat.length_toDigits_pos

theorem natural?_of_allDigits {digits : List Char} (nonempty : digits ≠ [])
    (plain : AllDigits digits) : natural? digits = some (Nat.ofDigitChars 10 digits 0) := by
  have accepted : digits.all Char.isDigit = true := List.all_eq_true.mpr plain
  simp only [natural?, ne_eq, nonempty, not_false_eq_true, accepted, and_self, ↓reduceIte]

theorem natural?_toDigits (value : Nat) : natural? (Nat.toDigits 10 value) = some value := by
  rw [natural?_of_allDigits (toDigits_ne_nil value) (allDigits_toDigits value),
    Nat.ofDigitChars_ten_toDigits]

/-! ## Decimals -/

theorem magnitude?_whole {digits : List Char} (negative : Bool) (nonempty : digits ≠ [])
    (plain : AllDigits digits) :
    magnitude? negative digits = some ⟨negative, Nat.ofDigitChars 10 digits 0, 0⟩ := by
  have taken : digits.takeWhile Char.isDigit = digits := List.takeWhile_eq_self_iff.mpr plain
  have dropped : digits.dropWhile Char.isDigit = [] := List.dropWhile_eq_nil_iff.mpr plain
  simp only [magnitude?, taken, dropped, natural?_of_allDigits nonempty plain, Option.map_some]

theorem magnitude?_fraction {whole fraction : List Char} (negative : Bool)
    (wholeNonempty : whole ≠ []) (wholePlain : AllDigits whole)
    (fractionNonempty : fraction ≠ []) (fractionPlain : AllDigits fraction) :
    magnitude? negative (whole ++ '.' :: fraction) =
      some ⟨negative, Nat.ofDigitChars 10 (whole ++ fraction) 0, -(fraction.length : Int)⟩ := by
  have taken : (whole ++ '.' :: fraction).takeWhile Char.isDigit = whole := by
    rw [List.takeWhile_append_of_pos wholePlain]
    simp
  have dropped : (whole ++ '.' :: fraction).dropWhile Char.isDigit = '.' :: fraction := by
    rw [List.dropWhile_append_of_pos wholePlain]
    simp
  have joined := natural?_of_allDigits (List.append_ne_nil_of_left_ne_nil wholeNonempty fraction)
    (allDigits_append wholePlain fractionPlain)
  simp only [magnitude?, taken, dropped, wholeNonempty, fractionNonempty, or_self, ↓reduceIte,
    joined, Option.map_some]

private theorem magnitude?_units (negative : Bool) (coefficient zeros : Nat) :
    magnitude? negative (Nat.toDigits 10 coefficient ++ List.replicate zeros '0') =
      some ⟨negative, coefficient * 10 ^ zeros, 0⟩ := by
  rw [magnitude?_whole negative
      (List.append_ne_nil_of_left_ne_nil (toDigits_ne_nil coefficient) _)
      (allDigits_append (allDigits_toDigits coefficient) (allDigits_zeros zeros)),
    Nat.ofDigitChars_append, Nat.ofDigitChars_ten_toDigits, Nat.ofDigitChars_replicate_zero,
    Nat.mul_comm]

private theorem magnitude?_split (negative : Bool) (coefficient places : Nat)
    (positive : 0 < places) (inside : places < (Nat.toDigits 10 coefficient).length) :
    magnitude? negative
        ((Nat.toDigits 10 coefficient).take ((Nat.toDigits 10 coefficient).length - places) ++
          '.' :: (Nat.toDigits 10 coefficient).drop
            ((Nat.toDigits 10 coefficient).length - places)) =
      some ⟨negative, coefficient, -(places : Int)⟩ := by
  have digits := allDigits_toDigits coefficient
  rw [magnitude?_fraction]
  · have fractionLength : (Nat.toDigits 10 coefficient).length -
        ((Nat.toDigits 10 coefficient).length - places) = places := by omega
    rw [List.take_append_drop, Nat.ofDigitChars_ten_toDigits, List.length_drop, fractionLength]
  · refine List.ne_nil_of_length_pos ?_
    rw [List.length_take]
    omega
  · exact fun character member => digits character (List.mem_of_mem_take member)
  · refine List.ne_nil_of_length_pos ?_
    rw [List.length_drop]
    omega
  · exact fun character member => digits character (List.mem_of_mem_drop member)

private theorem magnitude?_small (negative : Bool) (coefficient places : Nat)
    (enough : (Nat.toDigits 10 coefficient).length ≤ places) :
    magnitude? negative
        ('0' :: '.' ::
          (List.replicate (places - (Nat.toDigits 10 coefficient).length) '0' ++
            Nat.toDigits 10 coefficient)) =
      some ⟨negative, coefficient, -(places : Int)⟩ := by
  have read := magnitude?_fraction negative (List.cons_ne_nil '0' []) (allDigits_zeros 1)
    (List.append_ne_nil_of_right_ne_nil
      (List.replicate (places - (Nat.toDigits 10 coefficient).length) '0')
      (toDigits_ne_nil coefficient))
    (allDigits_append (allDigits_zeros _) (allDigits_toDigits coefficient))
  have fractionLength : (List.replicate (places - (Nat.toDigits 10 coefficient).length) '0' ++
      Nat.toDigits 10 coefficient).length = places := by
    rw [List.length_append, List.length_replicate]
    omega
  have value : Nat.ofDigitChars 10 ('0' ::
      (List.replicate (places - (Nat.toDigits 10 coefficient).length) '0' ++
        Nat.toDigits 10 coefficient)) 0 = coefficient := by
    rw [Nat.ofDigitChars_cons, Nat.ofDigitChars_append, Nat.ofDigitChars_replicate_zero]
    simp
  simp only [List.singleton_append, fractionLength, value] at read
  exact read

/-- A positional decimal reads as the number in plain form. -/
theorem magnitude?_positionalDigits (negative : Bool) (coefficient : Nat) (exponent : Int) :
    magnitude? negative
        (Decimal.positionalDigits false (Nat.toDigits 10 coefficient) exponent) =
      some (Decimal.plain ⟨negative, coefficient, exponent⟩) := by
  unfold Decimal.positionalDigits Decimal.plain
  by_cases whole : 0 ≤ exponent
  · simp only [whole, ↓reduceIte, Bool.false_eq_true, List.append_nil]
    exact magnitude?_units negative coefficient exponent.toNat
  · obtain ⟨places, rfl⟩ : ∃ places : Nat, exponent = -(places : Int) :=
      ⟨(-exponent).toNat, by omega⟩
    simp only [whole, ↓reduceIte, Int.neg_neg, Int.toNat_natCast]
    by_cases inside : places < (Nat.toDigits 10 coefficient).length
    · simp only [inside, ↓reduceIte, List.append_assoc, List.singleton_append]
      exact magnitude?_split negative coefficient places (by omega) inside
    · simp only [inside, ↓reduceIte, List.cons_append, List.nil_append]
      exact magnitude?_small negative coefficient places (by omega)

/-! ## Signed numbers -/

def signed (negative : Bool) (magnitude : List Char) : List Char :=
  (if negative then ['-'] else []) ++ magnitude

def IsMagnitude (characters : List Char) : Prop :=
  ∃ first rest, characters = first :: rest ∧ first.isDigit = true ∧
    ∀ character ∈ rest, character.isDigit = true ∨ character = '.'

theorem IsMagnitude.of_allDigits {digits : List Char} (nonempty : digits ≠ [])
    (plain : AllDigits digits) : IsMagnitude digits := by
  obtain ⟨first, rest, rfl⟩ := List.exists_cons_of_ne_nil nonempty
  exact ⟨first, rest, rfl, plain first (by simp),
    fun character member => .inl (plain character (by simp [member]))⟩

theorem IsMagnitude.append {whole others : List Char} (magnitude : IsMagnitude whole)
    (plain : ∀ character ∈ others, character.isDigit = true ∨ character = '.') :
    IsMagnitude (whole ++ others) := by
  obtain ⟨first, rest, rfl, begins, continues⟩ := magnitude
  refine ⟨first, rest ++ others, rfl, begins, ?_⟩
  intro character member
  rcases List.mem_append.mp member with inRest | inOthers
  · exact continues character inRest
  · exact plain character inOthers

theorem isMagnitude_toDigits (value : Nat) : IsMagnitude (Nat.toDigits 10 value) :=
  .of_allDigits (toDigits_ne_nil value) (allDigits_toDigits value)

theorem isMagnitude_positionalDigits (coefficient : Nat) (exponent : Int) :
    IsMagnitude (Decimal.positionalDigits false (Nat.toDigits 10 coefficient) exponent) := by
  have digits := allDigits_toDigits coefficient
  unfold Decimal.positionalDigits
  by_cases whole : 0 ≤ exponent
  · simp only [whole, ↓reduceIte, Bool.false_eq_true, List.append_nil]
    exact (isMagnitude_toDigits coefficient).append
      fun character member => .inl (allDigits_zeros _ character member)
  · simp only [whole, ↓reduceIte]
    by_cases inside : (-exponent).toNat < (Nat.toDigits 10 coefficient).length
    · simp only [inside, ↓reduceIte, List.append_assoc, List.singleton_append]
      refine (IsMagnitude.of_allDigits ?_ ?_).append ?_
      · refine List.ne_nil_of_length_pos ?_
        rw [List.length_take]
        omega
      · exact fun character member => digits character (List.mem_of_mem_take member)
      · intro character member
        rcases List.mem_cons.mp member with point | digit
        · exact .inr point
        · exact .inl (digits character (List.mem_of_mem_drop digit))
    · simp only [inside, ↓reduceIte, List.cons_append, List.nil_append]
      refine ⟨'0', _, rfl, rfl, ?_⟩
      intro character member
      rcases List.mem_cons.mp member with point | digit
      · exact .inr point
      · exact .inl (allDigits_append (allDigits_zeros _) digits character digit)

theorem scan_signed (negative : Bool) {magnitude : List Char} (number : IsMagnitude magnitude) :
    scan .between (signed negative magnitude) = ([], .numeral (signed negative magnitude)) := by
  obtain ⟨first, rest, rfl, begins, continues⟩ := number
  cases negative with
  | true =>
      have plain : ∀ character ∈ first :: rest, character.isDigit = true ∨ character = '.' := by
        intro character member
        rcases List.mem_cons.mp member with rfl | inRest
        · exact .inl begins
        · exact continues character inRest
      have started : step .between '-' = ([], .numeral ['-']) := rfl
      simp only [signed, ↓reduceIte, List.singleton_append, scan.eq_2, started,
        scan_numeral _ _ plain, List.nil_append]
  | false =>
      have notBlank : first ≠ ' ' := by
        rintro rfl
        exact absurd begins (by decide)
      have notQuote : first ≠ '\'' := by
        rintro rfl
        exact absurd begins (by decide)
      have started : step .between first = ([], .numeral [first]) := by
        simp only [step, start, notBlank, notQuote, begins, Bool.true_or, ↓reduceIte]
      simp only [signed, Bool.false_eq_true, ↓reduceIte, List.nil_append, scan.eq_2, started,
        scan_numeral _ _ continues, List.singleton_append]

theorem decimal?_signed (negative : Bool) {magnitude : List Char}
    (number : IsMagnitude magnitude) :
    decimal? (signed negative magnitude) = magnitude? negative magnitude := by
  obtain ⟨first, rest, rfl, begins, -⟩ := number
  cases negative with
  | true => rfl
  | false =>
      have notMinus : first ≠ '-' := by
        rintro rfl
        exact absurd begins (by decide)
      simp [signed, decimal?, notMinus]

theorem toList_toString_int (value : Int) :
    (toString value).toList = signed (decide (value < 0)) (Nat.toDigits 10 value.natAbs) := by
  rw [Int.toString_eq_repr, Int.repr_eq_if]
  by_cases nonnegative : 0 ≤ value
  · have notNegative : ¬ value < 0 := by omega
    have magnitude : value.toNat = value.natAbs := by omega
    simp only [nonnegative, notNegative, magnitude, signed, ↓reduceIte, decide_false,
      Bool.false_eq_true, List.nil_append, Nat.toList_repr]
  · have negative : value < 0 := by omega
    have magnitude : (-value).toNat = value.natAbs := by omega
    simp [nonnegative, negative, magnitude, signed]

theorem toList_write_finite (decimal : Decimal) :
    ((Numeral.finite decimal).write statementLayout).toList =
      signed decimal.negative
        (Decimal.positionalDigits false decimal.digits decimal.exponent) := by
  simp only [Numeral.write, Decimal.write, statementLayout, ↓reduceIte, String.toList_ofList,
    signed]

/-! ## Hexadecimal digits -/

theorem digitValue?_digit : ∀ value < 16,
    Text.Hexadecimal.digitValue? (Text.Hexadecimal.digit value) = some value := by
  decide

theorem digit_ne_quote : ∀ value < 16, Text.Hexadecimal.digit value ≠ '\'' := by
  decide

theorem fixedDigits_byte (byte : UInt8) :
    Text.Hexadecimal.fixedDigits 2 byte.toNat =
      [Text.Hexadecimal.digit (byte.toNat / 16), Text.Hexadecimal.digit (byte.toNat % 16)] := by
  have small : byte.toNat / 16 % 16 = byte.toNat / 16 := by
    have bound := byte.toNat_lt
    omega
  simp only [Text.Hexadecimal.fixedDigits, small, List.nil_append, List.cons_append]

theorem decodePairs?_encode (bytes : List UInt8) :
    Text.Hexadecimal.decodePairs? (Text.Hexadecimal.encode bytes).toList = some bytes := by
  rw [Text.Hexadecimal.encode, String.toList_ofList]
  induction bytes with
  | nil => rfl
  | cons byte bytes ih =>
      have bound := byte.toNat_lt
      have high := digitValue?_digit (byte.toNat / 16) (by omega)
      have low := digitValue?_digit (byte.toNat % 16) (by omega)
      have value : 16 * (byte.toNat / 16) + byte.toNat % 16 = byte.toNat := by omega
      rw [List.flatMap_cons, fixedDigits_byte]
      simp only [List.cons_append, List.nil_append, Text.Hexadecimal.decodePairs?, high, low, ih,
        value, Option.bind_eq_bind, Option.bind_some, UInt8.ofNat_toNat]

theorem quote_not_mem_encode (bytes : List UInt8) :
    '\'' ∉ (Text.Hexadecimal.encode bytes).toList := by
  rw [Text.Hexadecimal.encode, String.toList_ofList]
  intro member
  obtain ⟨byte, -, digit⟩ := List.mem_flatMap.mp member
  have bound := byte.toNat_lt
  rw [fixedDigits_byte] at digit
  simp only [List.mem_cons, List.not_mem_nil, or_false] at digit
  rcases digit with high | low
  · exact digit_ne_quote (byte.toNat / 16) (by omega) high.symm
  · exact digit_ne_quote (byte.toNat % 16) (by omega) low.symm

/-! ## Literals -/

theorem scan_blobLiteral (contents : List UInt8) :
    scan .between (Literal.blob contents).render.toList =
      ([.blob (Text.Hexadecimal.encode contents).toList], .between) := by
  have opened : scan .between "X'".toList = ([], .blob []) := rfl
  have closed : scan (.blob (Text.Hexadecimal.encode contents).toList) "'".toList =
      ([.blob (Text.Hexadecimal.encode contents).toList], .between) := rfl
  simp only [Literal.render, String.toList_append, scan_append, opened, closed,
    scan_blob _ _ (quote_not_mem_encode contents), List.nil_append]

/-- A finite literal before a separator is one token. -/
theorem lex_literal {literal : Literal} {rest : List Char} (finite : literal.isFinite = true)
    (separated : Separated rest) :
    lex .between (literal.render.toList ++ rest) = literal.token :: lex .between rest := by
  cases literal with
  | null =>
      have scanned : scan .between Literal.null.render.toList =
          ([], .word ['N', 'U', 'L', 'L']) := rfl
      exact lex_open _ scanned trivial separated
  | integer value =>
      have scanned := scan_signed (decide (value < 0)) (isMagnitude_toDigits value.natAbs)
      rw [← toList_toString_int] at scanned
      exact lex_open _ scanned trivial separated
  | real value =>
      cases value with
      | finite decimal =>
          have scanned := scan_signed decimal.negative
            (isMagnitude_positionalDigits decimal.coefficient decimal.exponent)
          have written := toList_write_finite decimal
          rw [Decimal.digits] at written
          rw [← written] at scanned
          exact lex_open _ scanned trivial separated
      | infinite negative => cases finite
      | notANumber => cases finite
  | text contents => exact lex_open _ (scan_quoted contents) trivial separated
  | blob contents => exact lex_closed _ _ (scan_blobLiteral contents) rest

/-- The token of a finite literal reads as the literal in plain form. -/
theorem literal?_token {literal : Literal} (finite : literal.isFinite = true) :
    literal? literal.token = some literal.plain := by
  cases literal with
  | null => rfl
  | integer value =>
      have read := magnitude?_whole (decide (value < 0)) (toDigits_ne_nil value.natAbs)
        (allDigits_toDigits value.natAbs)
      rw [Nat.ofDigitChars_ten_toDigits] at read
      simp only [Literal.token, literal?, toList_toString_int,
        decimal?_signed _ (isMagnitude_toDigits _), read, Option.map_some, Literal.plain]
  | real value =>
      cases value with
      | finite decimal =>
          simp only [Literal.token, literal?, toList_write_finite, Decimal.digits,
            decimal?_signed _ (isMagnitude_positionalDigits _ _), magnitude?_positionalDigits,
            Option.map_some, Literal.plain]
      | infinite negative => cases finite
      | notANumber => cases finite
  | text contents => simp only [Literal.token, literal?, String.ofList_toList, Literal.plain]
  | blob contents =>
      simp only [Literal.token, literal?, decodePairs?_encode, Option.map_some, Literal.plain]

end Sql

end Persistence
