import Persistence.Number.Reading
import Persistence.Proofs.Sql.LiteralReading

/-!
# Integers read back

The decimal text of an integer reads as the integer itself wherever its range admits it.
-/

set_option autoImplicit false

namespace Persistence.Number

theorem splitSign_signed (negative : Bool) (value : Nat) :
    splitSign (Sql.signed negative (Nat.toDigits 10 value)) =
      (negative, Nat.toDigits 10 value) := by
  cases negative with
  | true => rfl
  | false =>
      obtain ⟨first, others, digits, isDigit, -⟩ := Sql.isMagnitude_toDigits value
      simp only [Sql.signed, Bool.false_eq_true, ↓reduceIte, List.nil_append, digits]
      refine splitSign.eq_3 _ ?_ ?_ <;>
        · intro rest same
          cases same
          cases isDigit

theorem natural?_toDigits (value : Nat) : natural? (Nat.toDigits 10 value) = some value := by
  have nonempty : (Nat.toDigits 10 value).isEmpty = false :=
    List.isEmpty_eq_false_iff.mpr (Sql.toDigits_ne_nil value)
  have plain : (Nat.toDigits 10 value).all isDigit = true :=
    List.all_eq_true.mpr (Sql.allDigits_toDigits value)
  rw [natural?, nonempty, plain]
  exact congrArg some Nat.ofDigitChars_ten_toDigits

theorem integerWithin?_toString {least greatest value : Int} (low : least ≤ value)
    (high : value ≤ greatest) : integerWithin? least greatest (toString value) = some value := by
  have signed : (if value < 0 then -(value.natAbs : Int) else (value.natAbs : Int)) = value := by
    omega
  simp only [integerWithin?, Sql.toList_toString_int, splitSign_signed, natural?_toDigits,
    decide_eq_true_eq, signed, low, high, decide_true, Bool.and_self, ↓reduceIte,
    Option.bind_eq_bind, Option.bind_some]

end Persistence.Number
