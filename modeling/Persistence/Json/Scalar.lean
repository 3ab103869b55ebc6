import Persistence.Json.Tree
import Persistence.Number.Reading
import Persistence.Number.Shortest

/-!
# Numbers in JSON

Integers and floats as JSON numbers. An integer is written without fraction and exponent. A
float is read in two steps: its digits, as many as fit in 64 bits, are rounded to a double,
and that is multiplied or divided by the double nearest to the power of ten.
-/

set_option autoImplicit false

namespace Persistence

-- Powers are those of the core library, whichever other instances are imported.
attribute [local instance (2000)] instPowNat

/-- Doubles have at least one decimal from a hundred-thousandth up to below ten to the
sixteenth, singles from a millionth up to below ten to the thirteenth; outside, an exponent
with its sign. -/
def jsonLayout (format : BinaryFormat) : Decimal.Layout where
  isPositional power :=
    if format = .single then -6 ≤ power && power < 13 else -5 ≤ power && power < 16
  keepsPoint := true
  signsExponent := true

/-- The JSON number of a float. Infinities and what is not a number have none. -/
def Binary.toJson {format : BinaryFormat} (number : Binary format) : Json :=
  match number.shortest .even with
  | .finite decimal => .number (decimal.write (jsonLayout format))
  | _ => .null

namespace Json

/-- The integer in the given range that a number spells. Minus zero is no integer. -/
def integerWithin? (least greatest : Int) : Json → Option Int
  | .number lexeme =>
      if lexeme == "-0" then none else Number.integerWithin? least greatest lexeme
  | _ => none

/-- Extends a number by digits as long as the result fits in 64 bits. The result is the number
and how many digits were left over. -/
def takeFitting : Nat → List Char → Nat × Nat
  | current, [] => (current, 0)
  | current, digit :: rest =>
      let extended := 10 * current + (digit.toNat - 48)
      if extended < 2 ^ 64 then takeFitting extended rest else (current, rest.length + 1)

def powerOfTen (power : Nat) : Binary64 := Binary.nearest .double false (10 ^ power) 1

def product (left right : Binary64) : Binary64 :=
  match left.ratio?, right.ratio? with
  | some (a, b), some (c, d) => Binary.nearest .double false (a * c) (b * d)
  | _, _ => .notANumber

/-- Quotient of the magnitudes of two finite doubles, the second not zero. -/
def quotient (left right : Binary64) : Binary64 :=
  match left.ratio?, right.ratio? with
  | some (a, b), some (c, d) => Binary.nearest .double false (a * d) (b * c)
  | _, _ => .notANumber

/-- The magnitude `significand * 10 ^ power` through the doubles nearest to both factors. The
greatest power of ten among doubles is 308, so smaller magnitudes take two divisions, and
beyond them the significand, being less than `2 ^ 64`, vanishes. Too large a magnitude is
refused. -/
def scaled? (significand : Nat) (power : Int) : Option Binary64 :=
  let float := Binary.nearest .double false significand 1
  if 308 < power then if significand = 0 then some float else none
  else if 0 ≤ power then
    let result := product float (powerOfTen power.toNat)
    if result = .infinity false then none else some result
  else if -308 ≤ power then some (quotient float (powerOfTen (-power).toNat))
  else if -616 ≤ power then
    some (quotient (quotient float (powerOfTen 308)) (powerOfTen (-power - 308).toNat))
  else some (Binary.nearest .double false 0 1)

/-- The double that a number with fraction, exponent or too many digits spells. -/
def doubleOfLexeme? (lexeme : String) : Option Binary64 := do
  let (negative, body) := Number.splitSign lexeme.toList
  let (mantissa, exponentPart) := body.span fun character =>
    character != 'e' && character != 'E'
  let (whole, pointPart) := mantissa.span fun character => character != '.'
  let exponent ← match exponentPart with
    | [] => some 0
    | _ :: rest => Number.exponent? rest
  let (wholeNumber, dropped) := takeFitting 0 whole
  let fraction := pointPart.drop 1
  let (significand, unread) := takeFitting wholeNumber fraction
  let power := (dropped : Int) - ((fraction.length - unread : Nat) : Int) + exponent
  let magnitude ← scaled? significand power
  some (if negative then .ofMagnitude true magnitude.magnitudeBits else magnitude)

/-- The float of a format that a number spells. An integer of 64 bits is rounded at once, any
other number through a double. -/
def binary? (format : BinaryFormat) (json : Json) : Option (Binary format) :=
  match json with
  | .number lexeme =>
      match json.integerWithin? (-2 ^ (63 : Nat)) (2 ^ (64 : Nat) - 1) with
      | some value => some (.ofInt format value)
      | none => (doubleOfLexeme? lexeme).map (Binary.convert format)
  | _ => none

end Json

end Persistence
