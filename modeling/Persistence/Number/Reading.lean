import Persistence.Number.Binary
import Persistence.Number.Decimal

/-!
# Reading numbers

Whole numbers and decimals read from text, and the binary number nearest to a decimal. A
sign may stand in front; blanks, separators and digits outside ASCII are refused.
-/

set_option autoImplicit false

namespace Persistence.Number

def isDigit (character : Char) : Bool := '0' ≤ character && character ≤ '9'

def digitsValue (digits : List Char) : Nat :=
  digits.foldl (fun total digit => 10 * total + (digit.toNat - 48)) 0

/-- The number spelt by a row of one or more digits and nothing else. -/
def natural? (characters : List Char) : Option Nat :=
  if characters.isEmpty || !characters.all isDigit then none
  else some (digitsValue characters)

/-- A sign, if there is one, and the rest. -/
def splitSign : List Char → Bool × List Char
  | '-' :: rest => (true, rest)
  | '+' :: rest => (false, rest)
  | characters => (false, characters)

/-- The integer in the range from `least` to `greatest` that the text spells. -/
def integerWithin? (least greatest : Int) (text : String) : Option Int := do
  let (negative, digits) := splitSign text.toList
  let magnitude ← natural? digits
  let value : Int := if negative then -(magnitude : Int) else (magnitude : Int)
  if least ≤ value && value ≤ greatest then some value else none

/-- The natural number below `bound` that the text spells. A minus sign is refused, also
before a zero. -/
def naturalBelow? (bound : Nat) (text : String) : Option Nat := do
  let digits :=
    match text.toList with
    | '+' :: rest => rest
    | characters => characters
  let value ← natural? digits
  if value < bound then some value else none

/-- An exponent: a sign, if there is one, and digits. -/
def exponent? (characters : List Char) : Option Int := do
  let (negative, digits) := splitSign characters
  let magnitude ← natural? digits
  some (if negative then -(magnitude : Int) else (magnitude : Int))

/-- The decimal spelt without its sign: digits with at most one point among or around them,
and an exponent if one follows. -/
def unsignedDecimal? (negative : Bool) (characters : List Char) : Option Decimal := do
  let (mantissa, exponentPart) := characters.span fun character =>
    character != 'e' && character != 'E'
  let power ← match exponentPart with
    | [] => some 0
    | _ :: rest => exponent? rest
  let (whole, pointPart) := mantissa.span fun character => character != '.'
  let fraction := pointPart.drop 1
  let digits := whole ++ fraction
  let coefficient ← natural? digits
  some ⟨negative, coefficient, power - (fraction.length : Int)⟩

/-- The number that the text spells: a decimal, or a name of an infinity or of what is not a
number in any case of its letters. -/
def numeral? (text : String) : Option Numeral :=
  let (negative, body) := splitSign text.toList
  match String.ofList (body.map Char.toLower) with
  | "inf" | "infinity" => some (.infinite negative)
  | "nan" => some .notANumber
  | _ => (unsignedDecimal? negative body).map .finite

end Persistence.Number

namespace Persistence.Binary

-- Powers are those of the core library, whichever other instances are imported.
attribute [local instance (2000)] instPowNat

/-- The number of the format nearest to a decimal. A decimal beyond any exponent of the format
is settled by its first digit's power of ten alone. -/
def ofDecimal (format : BinaryFormat) (decimal : Decimal) : Binary format :=
  let bound : Int := (2 : Int) ^ format.exponentWidth + (format.fractionWidth : Int)
  if decimal.coefficient = 0 then ofMagnitude decimal.negative 0
  else if bound < decimal.leadingPower then infinity decimal.negative
  else if decimal.leadingPower < -bound then ofMagnitude decimal.negative 0
  else if 0 ≤ decimal.exponent then
    nearest format decimal.negative (decimal.coefficient * 10 ^ decimal.exponent.toNat) 1
  else
    nearest format decimal.negative decimal.coefficient (10 ^ (-decimal.exponent).toNat)

def ofNumeral (format : BinaryFormat) : Numeral → Binary format
  | .finite decimal => ofDecimal format decimal
  | .infinite negative => infinity negative
  | .notANumber => notANumber

end Persistence.Binary
