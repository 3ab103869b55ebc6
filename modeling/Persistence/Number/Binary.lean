/-!
# Binary floating-point numbers

Numbers of a binary interchange format, held by their bits. A number is read as a sign, a
significand and a power of two, and a ratio of natural numbers is rounded to the nearest
number of a format, a half going to the even neighbour. Everything is exact arithmetic on
natural numbers.
-/

set_option autoImplicit false

namespace Persistence

-- Powers are those of the core library, whichever other instances are imported.
attribute [local instance (2000)] instPowNat

/-- The widths of the exponent field and of the fraction field of a format. -/
structure BinaryFormat where
  exponentWidth : Nat
  fractionWidth : Nat
deriving DecidableEq, Repr

namespace BinaryFormat

def single : BinaryFormat := ⟨8, 23⟩

def double : BinaryFormat := ⟨11, 52⟩

def magnitudeWidth (format : BinaryFormat) : Nat := format.exponentWidth + format.fractionWidth

/-- Bits of a number: its sign and the two fields. -/
def width (format : BinaryFormat) : Nat := 1 + format.magnitudeWidth

/-- The exponent of two of the least positive number. -/
def leastExponent (format : BinaryFormat) : Int :=
  2 - (2 : Int) ^ (format.exponentWidth - 1) - (format.fractionWidth : Int)

/-- The value of the exponent field that marks infinities and what is not a number. -/
def specialField (format : BinaryFormat) : Nat := 2 ^ format.exponentWidth - 1

/-- The magnitude bits of an infinity. Larger ones are not numbers. -/
def infinityBits (format : BinaryFormat) : Nat := format.specialField * 2 ^ format.fractionWidth

end BinaryFormat

/-- A number of the format, by its bits. -/
structure Binary (format : BinaryFormat) where
  /-- The sign, the exponent field and the fraction field. -/
  bits : BitVec format.width
deriving DecidableEq

abbrev Binary32 := Binary .single

abbrev Binary64 := Binary .double

/-- What the bits of a number say. -/
inductive BinaryReading where
  | notANumber
  | infinite (negative : Bool)
  /-- The number `significand * 2 ^ exponent` with its sign; zero has a sign too. -/
  | finite (negative : Bool) (significand : Nat) (exponent : Int)
deriving DecidableEq, Repr

namespace Binary

variable {format : BinaryFormat}

def magnitudeBits (number : Binary format) : Nat :=
  number.bits.toNat % 2 ^ format.magnitudeWidth

def isNegative (number : Binary format) : Bool :=
  2 ^ format.magnitudeWidth ≤ number.bits.toNat

def ofMagnitude (negative : Bool) (magnitude : Nat) : Binary format :=
  ⟨BitVec.ofNat _ (magnitude + if negative then 2 ^ format.magnitudeWidth else 0)⟩

def infinity (negative : Bool) : Binary format := ofMagnitude negative format.infinityBits

def notANumber : Binary format :=
  ofMagnitude false (format.infinityBits + 2 ^ (format.fractionWidth - 1))

/-- Sign, significand and exponent of the number. The leading bit of the significand is
implied unless the exponent field is zero. -/
def reading (number : Binary format) : BinaryReading :=
  let field := number.magnitudeBits / 2 ^ format.fractionWidth
  let fraction := number.magnitudeBits % 2 ^ format.fractionWidth
  if field = format.specialField then
    if fraction = 0 then .infinite number.isNegative else .notANumber
  else if field = 0 then .finite number.isNegative fraction format.leastExponent
  else
    .finite number.isNegative (2 ^ format.fractionWidth + fraction)
      (format.leastExponent + (field : Int) - 1)

def isNotANumber (number : Binary format) : Bool :=
  format.infinityBits < number.magnitudeBits

def isZero (number : Binary format) : Bool := number.magnitudeBits == 0

/-- Equality of numbers: what is not a number equals nothing, and the two zeros are equal. -/
def equals (left right : Binary format) : Bool :=
  !left.isNotANumber && !right.isNotANumber &&
    ((left.isZero && right.isZero) || left.bits == right.bits)

/-! ## Rounding -/

/-- The quotient rounded to the nearest natural number, a half to the even one. -/
def divideToEven (numerator denominator : Nat) : Nat :=
  let quotient := numerator / denominator
  let twice := 2 * (numerator % denominator)
  if denominator < twice ∨ (twice = denominator ∧ quotient % 2 = 1) then quotient + 1
  else quotient

/-- The greatest power of two that is at most the positive ratio, by its exponent. -/
def floorLog2 (numerator denominator : Nat) : Int :=
  let estimate : Int := (numerator.log2 : Int) - (denominator.log2 : Int)
  if denominator * 2 ^ numerator.log2 ≤ numerator * 2 ^ denominator.log2 then estimate
  else estimate - 1

/-- The ratio divided by a power of two, again as a ratio. -/
def divideByPowerOfTwo (numerator denominator : Nat) (exponent : Int) : Nat × Nat :=
  if 0 ≤ exponent then (numerator, denominator * 2 ^ exponent.toNat)
  else (numerator * 2 ^ (-exponent).toNat, denominator)

/-- The number nearest to the ratio of the given sign, a half to the even neighbour. A ratio
too large for the format becomes infinite. -/
def nearest (format : BinaryFormat) (negative : Bool) (numerator denominator : Nat) :
    Binary format :=
  if numerator = 0 then ofMagnitude negative 0
  else
    let exponent := max format.leastExponent
      (floorLog2 numerator denominator - (format.fractionWidth : Int))
    let (top, bottom) := divideByPowerOfTwo numerator denominator exponent
    let steps := (exponent - format.leastExponent).toNat
    let magnitude := steps * 2 ^ format.fractionWidth + divideToEven top bottom
    ofMagnitude negative (min magnitude format.infinityBits)

def ofInt (format : BinaryFormat) (value : Int) : Binary format :=
  nearest format (value < 0) value.natAbs 1

def ratio? (number : Binary format) : Option (Nat × Nat) :=
  match number.reading with
  | .finite _ significand exponent =>
      if 0 ≤ exponent then some (significand * 2 ^ exponent.toNat, 1)
      else some (significand, 2 ^ (-exponent).toNat)
  | _ => none

/-- The nearest number of another format. What is not a number keeps its sign and the high
bits of its payload and becomes quiet. -/
def convert (target : BinaryFormat) (number : Binary format) : Binary target :=
  match number.reading with
  | .infinite negative => infinity negative
  | .finite negative significand exponent =>
      if 0 ≤ exponent then nearest target negative (significand * 2 ^ exponent.toNat) 1
      else nearest target negative significand (2 ^ (-exponent).toNat)
  | .notANumber =>
      let payload := number.magnitudeBits % 2 ^ format.fractionWidth
      let moved := payload * 2 ^ target.fractionWidth / 2 ^ format.fractionWidth
      let quiet := 2 ^ (target.fractionWidth - 1)
      ofMagnitude number.isNegative (target.infinityBits + quiet + moved % quiet)

end Binary

end Persistence
