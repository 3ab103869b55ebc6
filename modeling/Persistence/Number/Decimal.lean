/-!
# Decimal numbers

A number written in decimal: a whole coefficient times a power of ten, or one of the values
that no decimal spells. A layout fixes how such a number is written.
-/

set_option autoImplicit false

namespace Persistence

/-- The number `coefficient * 10 ^ exponent` with its sign; zero has a sign too. -/
structure Decimal where
  negative : Bool
  /-- The digits, read as a whole number. -/
  coefficient : Nat
  exponent : Int
deriving DecidableEq, Repr

/-- A decimal number, an infinity, or no number. -/
inductive Numeral where
  | finite (decimal : Decimal)
  | infinite (negative : Bool)
  | notANumber
deriving DecidableEq, Repr

namespace Decimal

/-- The decisions of a written form. -/
structure Layout where
  /-- Whether a number whose first digit counts `10 ^ power` is written without an exponent. -/
  isPositional : Int → Bool
  /-- Whether a whole number written without an exponent ends in a point and a zero. -/
  keepsPoint : Bool
  signsExponent : Bool

def digits (decimal : Decimal) : List Char := Nat.toDigits 10 decimal.coefficient

def leadingPower (decimal : Decimal) : Int :=
  (decimal.digits.length : Int) - 1 + decimal.exponent

/-- The digits around the point, zeros filled in where the digits do not reach. -/
def positionalDigits (keepsPoint : Bool) (digits : List Char) (exponent : Int) : List Char :=
  if 0 ≤ exponent then
    digits ++ List.replicate exponent.toNat '0' ++ (if keepsPoint then ['.', '0'] else [])
  else
    let places := (-exponent).toNat
    if places < digits.length then
      digits.take (digits.length - places) ++ ['.'] ++ digits.drop (digits.length - places)
    else ['0', '.'] ++ List.replicate (places - digits.length) '0' ++ digits

/-- One digit, the others after a point, and the power of ten of the first one. -/
def scientificDigits (signsExponent : Bool) (digits : List Char) (power : Int) : List Char :=
  let mantissa :=
    match digits with
    | first :: second :: rest => first :: '.' :: second :: rest
    | _ => digits
  let sign := if power < 0 then ['-'] else if signsExponent then ['+'] else []
  mantissa ++ ['e'] ++ sign ++ Nat.toDigits 10 power.natAbs

def write (layout : Layout) (decimal : Decimal) : String :=
  let sign := if decimal.negative then ['-'] else []
  let body :=
    if layout.isPositional decimal.leadingPower then
      positionalDigits layout.keepsPoint decimal.digits decimal.exponent
    else scientificDigits layout.signsExponent decimal.digits decimal.leadingPower
  String.ofList (sign ++ body)

end Decimal

/-- The number in the given layout; infinities and what is not a number have names. -/
def Numeral.write (layout : Decimal.Layout) : Numeral → String
  | .finite decimal => decimal.write layout
  | .infinite negative => if negative then "-inf" else "inf"
  | .notANumber => "NaN"

end Persistence
