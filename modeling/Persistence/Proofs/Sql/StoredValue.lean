import Persistence.Proofs.Sql.LiteralReading

/-!
# Stored values

SQLite keeps what a literal spells as null, an integer of 64 bits, a text or a blob. For every
declared type but those of floats, a value comes back from there as it was, once it is narrowed
to the type.
-/

set_option autoImplicit false

namespace Persistence

/-! ## What SQLite stores -/

/-- The whole number that a decimal without digits behind the point is. -/
def Decimal.whole? (decimal : Decimal) : Option Int :=
  if decimal.exponent = 0 then
    some (if decimal.negative then -decimal.coefficient else decimal.coefficient)
  else none

/-- The cell that SQLite keeps for a literal. Floats and integers beyond 64 bits are left out. -/
def Literal.stored? : Literal → Option Value
  | .null => some .null
  | .real (.finite decimal) => do
      let number ← decimal.whole?
      if -9223372036854775808 ≤ number ∧ number ≤ 9223372036854775807 then
        some (.int64 (.ofInt number))
      else none
  | .text contents => some (.string contents)
  | .blob contents => some (.bytes contents)
  | _ => none

def Sql.stored? (text : String) : Option Value :=
  match tokens text with
  | [token] => (literal? token).bind Literal.stored?
  | _ => none

theorem Sql.stored?_render {literal : Literal} (finite : literal.isFinite = true) :
    Sql.stored? literal.render = literal.plain.stored? := by
  have ended : Separated [] := rfl
  have read : tokens literal.render = [literal.token] := by
    rw [tokens, ← List.append_nil literal.render.toList, lex_literal finite ended]
    rfl
  rw [stored?, read]
  simp only [literal?_token finite, Option.bind_some]

theorem Literal.stored?_plain_integer {number : Int} (least : -9223372036854775808 ≤ number)
    (greatest : number ≤ 9223372036854775807) :
    (Literal.integer number).plain.stored? = some (.int64 (.ofInt number)) := by
  have whole : Decimal.whole? ⟨decide (number < 0), number.natAbs, 0⟩ = some number := by
    unfold Decimal.whole?
    by_cases negative : number < 0
    · simp only [negative, decide_true, ↓reduceIte, Option.some.injEq]
      omega
    · simp only [negative, decide_false, ↓reduceIte, Bool.false_eq_true, Option.some.injEq]
      omega
  rw [Literal.plain, Literal.stored?, whole]
  exact if_pos ⟨least, greatest⟩

/-! ## Values of declared types -/

/-- Whether values of the type are written without rounding. -/
def ScalarType.isExact : ScalarType → Bool
  | .float32 | .float64 => false
  | _ => true

namespace Value

def scalarType? : Value → Option ScalarType
  | .null => none
  | .bool _ => some .bool
  | .int32 _ => some .int32
  | .int64 _ => some .int64
  | .float32 _ => some .float32
  | .float64 _ => some .float64
  | .string _ => some .string
  | .bytes _ => some .bytes
  | .timestamp _ => some .timestamp

def Fits (scalar : ScalarType) (value : Value) : Prop :=
  value = .null ∨ value.scalarType? = some scalar

instance (scalar : ScalarType) (value : Value) : Decidable (value.Fits scalar) :=
  inferInstanceAs (Decidable (_ ∨ _))

variable {value : Value} {scalar : ScalarType}

theorem narrow_null (scalar : ScalarType) : narrow scalar .null = .null := by
  cases scalar <;> rfl

theorem narrow_int32 (number : Int32) :
    narrow .int32 (.int64 (.ofInt number.toInt)) = .int32 number := by
  have least := number.le_toInt
  have greatest := number.toInt_lt
  rw [Int64.ofInt_int32ToInt, narrow, Int32.toInt_toInt64, if_pos (by omega),
    Int32.toInt32_toInt64]

theorem stored?_int64 (number : Int64) :
    Sql.stored? (Literal.integer number.toInt).render = some (.int64 number) := by
  have least := number.le_toInt
  have greatest := number.toInt_lt
  rw [Sql.stored?_render rfl, Literal.stored?_plain_integer (by omega) (by omega),
    Int64.ofInt_toInt]

/-- A value of a declared type that is exact, as SQLite writes and keeps it, is narrowed to the
value itself. -/
theorem narrow_stored (exact : scalar.isExact = true) (fits : value.Fits scalar) :
    ∃ cell,
      Sql.stored? (value.literalAs (Dialect.sqlite.storageType scalar)).render = some cell ∧
        cell.narrow scalar = value := by
  rcases fits with rfl | typed
  · refine ⟨.null, ?_, narrow_null scalar⟩
    rw [literalAs]
    exact Sql.stored?_render rfl
  · cases value with
    | null => cases typed
    | bool truth =>
        cases typed
        cases truth
        · exact ⟨.int64 0, stored?_int64 0, rfl⟩
        · exact ⟨.int64 1, stored?_int64 1, rfl⟩
    | int32 number =>
        cases typed
        have least := number.le_toInt
        have greatest := number.toInt_lt
        have read : Sql.stored? (Literal.integer number.toInt).render =
            some (.int64 (.ofInt number.toInt)) := by
          rw [Sql.stored?_render rfl, Literal.stored?_plain_integer (by omega) (by omega)]
        exact ⟨_, read, narrow_int32 number⟩
    | int64 number =>
        cases typed
        exact ⟨.int64 number, stored?_int64 number, rfl⟩
    | float32 number =>
        cases typed
        cases exact
    | float64 number =>
        cases typed
        cases exact
    | string contents =>
        cases typed
        exact ⟨.string contents, Sql.stored?_render rfl, rfl⟩
    | bytes contents =>
        cases typed
        exact ⟨.bytes contents, Sql.stored?_render rfl, rfl⟩
    | timestamp time =>
        cases typed
        exact ⟨.int64 time, stored?_int64 time, rfl⟩

end Value

end Persistence
