import Persistence.Instance.Basic
import Persistence.Proofs.Outcome

/-!
# Identity and identity hashes

Where instances that are the same have the same hash. Integers hash by their number whatever
their width, but a truth value is told from the integer it stands for and the two zeros of a
float are told apart, although identity makes no difference between them.
-/

set_option autoImplicit false

namespace Persistence

-- Powers are those of the core library, as in the definition of the formats.
attribute [local instance (2000)] instPowNat

/-! ## Zeros -/

theorem Binary.eq_ofMagnitude_of_isZero {format : BinaryFormat} {number : Binary format}
    (zero : number.isZero = true) : number = ofMagnitude number.isNegative 0 := by
  obtain ⟨bits⟩ := number
  have widened : 2 ^ format.width = 2 ^ format.magnitudeWidth + 2 ^ format.magnitudeWidth := by
    rw [BinaryFormat.width, Nat.add_comm, Nat.pow_succ, Nat.mul_two]
  have bounded : bits.toNat < 2 ^ format.magnitudeWidth + 2 ^ format.magnitudeWidth :=
    Nat.lt_of_lt_of_eq bits.isLt widened
  have divided : bits.toNat % 2 ^ format.magnitudeWidth = 0 := by
    simpa [isZero, magnitudeBits] using zero
  have contents : bits.toNat =
      if 2 ^ format.magnitudeWidth ≤ bits.toNat then 2 ^ format.magnitudeWidth else 0 := by
    split
    · rename_i negative
      rw [Nat.mod_eq_sub_mod negative, Nat.mod_eq_of_lt (by omega)] at divided
      omega
    · rename_i positive
      rwa [Nat.mod_eq_of_lt (Nat.lt_of_not_le positive)] at divided
  refine congrArg Binary.mk (BitVec.eq_of_toNat_eq ?_)
  simp only [isNegative, Nat.zero_add, BitVec.toNat_ofNat, decide_eq_true_eq]
  rw [← contents, Nat.mod_eq_of_lt bits.isLt]

namespace Value

def isTruth : Value → Bool
  | .bool _ => true
  | _ => false

def isNegativeZero : Value → Bool
  | .float32 value => value.isZero && value.isNegative
  | .float64 value => value.isZero && value.isNegative
  | _ => false

variable {left right : Value}

/-! ## Values that identify the same row -/

/-- Values of one kind are equal only if they are the same, but for the two zeros. -/
theorem eq_or_isZero_of_equals (equal : left.equals right = true) :
    left = right ∨
      (∃ negative other, left = .float32 (.ofMagnitude negative 0) ∧
        right = .float32 (.ofMagnitude other 0)) ∨
      (∃ negative other, left = .float64 (.ofMagnitude negative 0) ∧
        right = .float64 (.ofMagnitude other 0)) := by
  have zeros : ∀ {format : BinaryFormat} {number other : Binary format},
      number.equals other = true →
      number = other ∨ (number = .ofMagnitude number.isNegative 0 ∧
        other = .ofMagnitude other.isNegative 0) := by
    intro format number other same
    simp only [Binary.equals, Bool.and_eq_true, Bool.or_eq_true, beq_iff_eq] at same
    rcases same.2 with ⟨zero, otherZero⟩ | sameBits
    · exact .inr ⟨Binary.eq_ofMagnitude_of_isZero zero, Binary.eq_ofMagnitude_of_isZero otherZero⟩
    · exact .inl (congrArg Binary.mk sameBits)
  cases left with
  | float32 number =>
      cases right with
      | float32 other =>
          rcases zeros equal with rfl | ⟨zero, otherZero⟩
          · exact .inl rfl
          · exact .inr (.inl ⟨_, _, congrArg float32 zero, congrArg float32 otherZero⟩)
      | _ => cases equal
  | float64 number =>
      cases right with
      | float64 other =>
          rcases zeros equal with rfl | ⟨zero, otherZero⟩
          · exact .inl rfl
          · exact .inr (.inr ⟨_, _, congrArg float64 zero, congrArg float64 otherZero⟩)
      | _ => cases equal
  | _ => cases right <;> simp_all [equals]

theorem identifiesSame_cases (same : left.identifiesSame right = true) :
    (∃ number, left.toInt64? = some number ∧ right.toInt64? = some number) ∨
      left.equals right = true := by
  unfold identifiesSame at same
  split at same
  · rename_i number other leftNumber rightNumber
    rw [beq_iff_eq] at same
    subst same
    exact .inl ⟨number, leftNumber, rightNumber⟩
  · exact .inr same

theorem isNull_eq_of_identifiesSame (same : left.identifiesSame right = true) :
    left.isNull = right.isNull := by
  rcases identifiesSame_cases same with ⟨number, leftNumber, rightNumber⟩ | equal
  · have notNull : ∀ {value : Value}, value.toInt64? = some number → value.isNull = false := by
      intro value integer
      cases value <;> first | rfl | cases integer
    rw [notNull leftNumber, notNull rightNumber]
  · rcases eq_or_isZero_of_equals equal with rfl | ⟨_, _, rfl, rfl⟩ | ⟨_, _, rfl, rfl⟩ <;> rfl

theorem identifiesSame_self (same : left.identifiesSame right = true) :
    left.identifiesSame left = true := by
  rcases identifiesSame_cases same with ⟨number, leftNumber, -⟩ | equal
  · simp [identifiesSame, leftNumber]
  · rcases eq_or_isZero_of_equals equal with rfl | ⟨negative, _, rfl, -⟩ | ⟨negative, _, rfl, -⟩
    · exact same
    · cases negative <;> decide
    · cases negative <;> decide

/-! ## Hashes -/

theorem identityHash_of_toInt64? {value : Value} {number : Int64}
    (integer : value.toInt64? = some number) (untrue : value.isTruth = false) :
    value.identityHash = foldWord number.toUInt64 := by
  cases value <;> cases integer <;> first | rfl | cases untrue

/-- A truth value hashes apart from the integer that it stands for. -/
theorem identityHash_truth_ne {truth : Bool} {number : Int64}
    (integer : (Value.bool truth).toInt64? = some number) :
    (Value.bool truth).identityHash ≠ foldWord number.toUInt64 := by
  cases integer
  cases truth <;> decide

theorem isNegativeZero_of_toInt64? {value : Value} {number : Int64}
    (integer : value.toInt64? = some number) : value.isNegativeZero = false := by
  cases value <;> first | rfl | cases integer

/-- Of values that identify the same row, a truth value and an integer hash apart, and so do
the two zeros of a float; all others hash alike. -/
theorem identityHash_eq_iff (same : left.identifiesSame right = true) :
    left.identityHash = right.identityHash ↔
      left.isTruth = right.isTruth ∧ left.isNegativeZero = right.isNegativeZero := by
  rcases identifiesSame_cases same with ⟨number, leftNumber, rightNumber⟩ | equal
  · rw [isNegativeZero_of_toInt64? leftNumber, isNegativeZero_of_toInt64? rightNumber]
    have truth : ∀ {value : Value}, value.isTruth = true → ∃ truth, value = .bool truth := by
      intro value isTruth
      cases value <;> first | exact ⟨_, rfl⟩ | cases isTruth
    cases leftTruth : left.isTruth with
    | false =>
        rw [identityHash_of_toInt64? leftNumber leftTruth]
        cases rightTruth : right.isTruth with
        | false => simp [identityHash_of_toInt64? rightNumber rightTruth]
        | true =>
            obtain ⟨value, rfl⟩ := truth rightTruth
            simp [(identityHash_truth_ne rightNumber).symm]
    | true =>
        obtain ⟨value, rfl⟩ := truth leftTruth
        cases rightTruth : right.isTruth with
        | false =>
            rw [identityHash_of_toInt64? rightNumber rightTruth]
            simp [identityHash_truth_ne leftNumber]
        | true =>
            obtain ⟨other, rfl⟩ := truth rightTruth
            have sameTruth : value = other := by
              rw [← rightNumber] at leftNumber
              cases value <;> cases other <;> first | rfl | exact absurd leftNumber (by decide)
            simp [sameTruth]
  · rcases eq_or_isZero_of_equals equal with rfl | ⟨negative, other, rfl, rfl⟩ |
      ⟨negative, other, rfl, rfl⟩
    · simp
    · cases negative <;> cases other <;> decide
    · cases negative <;> cases other <;> decide

end Value

theorem identityHash_eq_iff {left right : Value} (same : left.identifiesSame right = true)
    (entity : String) :
    identityHash entity left = identityHash entity right ↔
      left.identityHash = right.identityHash := by
  unfold identityHash
  rw [Value.isNull_eq_of_identifiesSame same]
  cases null : right.isNull with
  | false => exact Int32.add_right_inj _
  | true =>
      have leftNull := (Value.isNull_eq_of_identifiesSame same).trans null
      cases left <;> cases leftNull
      cases right <;> cases null
      simp

namespace Catalog

variable {catalog : Catalog} {item : Instance} {entity : String} {key : Value}

theorem hasIdentity_eq_true :
    catalog.hasIdentity item entity key = true ↔
      item.entity = entity ∧
        ∃ own, catalog.keyValue item = .ok own ∧ own.identifiesSame key = true := by
  unfold hasIdentity
  cases catalog.keyValue item <;> simp

theorem hasIdentity_iff {own : Value} (keyed : catalog.keyValue item = .ok own) :
    catalog.hasIdentity item entity key = true ↔
      item.entity = entity ∧ own.identifiesSame key = true := by
  simp [hasIdentity_eq_true, keyed]

theorem identityHashOf_eq_ok {hash : Int32} :
    catalog.identityHashOf item = .ok hash ↔
      ∃ own, catalog.keyValue item = .ok own ∧ identityHash item.entity own = hash := by
  simp [identityHashOf, bind_eq_ok]

/-- An instance has the hash of each identity that it has, unless its key or that of the
identity is a truth value where the other is an integer, or a negative zero where the other is
a positive one. -/
theorem identityHashOf_eq_ok_iff (identified : catalog.hasIdentity item entity key = true) :
    ∃ own, catalog.keyValue item = .ok own ∧
      (catalog.identityHashOf item = .ok (identityHash entity key) ↔
        own.isTruth = key.isTruth ∧ own.isNegativeZero = key.isNegativeZero) := by
  obtain ⟨rfl, own, keyed, same⟩ := hasIdentity_eq_true.mp identified
  refine ⟨own, keyed, ?_⟩
  rw [← Value.identityHash_eq_iff same, ← identityHash_eq_iff same item.entity]
  simp [identityHashOf_eq_ok, keyed]

/-! ## Switches and levels -/

/-- Devices by number, switches by their position and levels by their height. -/
def deviceCatalog : Catalog where
  schema := ⟨[
    { name := "Device", fields := [{ name := "id", type := .scalar .int64 }] },
    { name := "Switch", fields := [{ name := "id", type := .scalar .bool }] },
    { name := "Level", fields := [{ name := "id", type := .scalar .float64 }] }]⟩

theorem identityHashOf_device :
    deviceCatalog.hasIdentity ⟨"Device", fun _ => some (.int64 7)⟩ "Device" (.int32 7) = true ∧
      ∃ own, deviceCatalog.keyValue ⟨"Device", fun _ => some (.int64 7)⟩ = .ok own ∧
        (deviceCatalog.identityHashOf ⟨"Device", fun _ => some (.int64 7)⟩ =
            .ok (identityHash "Device" (.int32 7)) ↔
          own.isTruth = (Value.int32 7).isTruth ∧
            own.isNegativeZero = (Value.int32 7).isNegativeZero) := by
  have identified :
      deviceCatalog.hasIdentity ⟨"Device", fun _ => some (.int64 7)⟩ "Device" (.int32 7) =
        true := by
    decide
  exact ⟨identified, identityHashOf_eq_ok_iff identified⟩

/-- A switch that is on is the one of key 1, and a level of zero the one of negative zero, but
neither is found under the hash of that key. -/
theorem not_identityHashOf_switch :
    (deviceCatalog.hasIdentity ⟨"Switch", fun _ => some (.bool true)⟩ "Switch" (.int64 1) = true ∧
        deviceCatalog.identityHashOf ⟨"Switch", fun _ => some (.bool true)⟩ ≠
          .ok (identityHash "Switch" (.int64 1))) ∧
      (deviceCatalog.hasIdentity ⟨"Level", fun _ => some (.float64 ⟨0⟩)⟩ "Level"
          (.float64 ⟨0x8000000000000000⟩) = true ∧
        deviceCatalog.identityHashOf ⟨"Level", fun _ => some (.float64 ⟨0⟩)⟩ ≠
          .ok (identityHash "Level" (.float64 ⟨0x8000000000000000⟩))) := by
  decide

end Catalog

end Persistence
