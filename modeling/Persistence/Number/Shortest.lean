import Persistence.Number.Binary
import Persistence.Number.Decimal

/-!
# Shortest decimals

The decimal with the fewest digits among those that round to a given binary number, and of
those the nearest to it. On each decimal grid, from coarse to fine, the two neighbours of
the number are tested against the interval of reals that round to it; the first grid with a
hit has the fewest digits.
-/

set_option autoImplicit false

namespace Persistence

-- Powers are those of the core library, whichever other instances are imported.
attribute [local instance (2000)] instPowNat

/-- Which of two equally near decimals is taken. -/
inductive TieRule where
  | away
  | even
deriving DecidableEq, Repr

/-- A positive real with the interval of reals that round to it, over one denominator. -/
structure RoundingInterval where
  lower : Nat
  value : Nat
  upper : Nat
  denominator : Nat
  closed : Bool
deriving DecidableEq, Repr

namespace RoundingInterval

/-- The interval of the number `significand * 2 ^ exponent` of a format. Its ends lie half way
to the neighbours, the lower neighbour of a power of two being nearer, and belong to the
interval if the significand is even. -/
def ofParts (format : BinaryFormat) (significand : Nat) (exponent : Int) : RoundingInterval :=
  let isNarrow := significand = 2 ^ format.fractionWidth ∧ format.leastExponent < exponent
  let below := if isNarrow then 1 else 2
  let unit := exponent - 2
  let scale := 2 ^ unit.toNat
  { lower := (4 * significand - below) * scale
    value := 4 * significand * scale
    upper := (4 * significand + 2) * scale
    denominator := 2 ^ (-unit).toNat
    closed := significand % 2 == 0 }

/-- Whether a numerator over the same denominator lies in the interval. -/
def contains (interval : RoundingInterval) (numerator : Nat) : Bool :=
  if interval.closed then interval.lower ≤ numerator && numerator ≤ interval.upper
  else interval.lower < numerator && numerator < interval.upper

def scale (interval : RoundingInterval) (factor : Nat) : RoundingInterval :=
  { interval with
    lower := interval.lower * factor
    value := interval.value * factor
    upper := interval.upper * factor }

/-- The multiple of `10 ^ power` in the interval that is nearest to the number, as its
coefficient, if one of the number's two neighbours on that grid is in the interval. -/
def nearestOnGrid? (tie : TieRule) (interval : RoundingInterval) (power : Int) : Option Nat :=
  let scaled := interval.scale (10 ^ (-power).toNat)
  let step := interval.denominator * 10 ^ power.toNat
  let below := scaled.value / step
  let above := below + 1
  match scaled.contains (below * step), scaled.contains (above * step) with
  | true, true =>
      let down := scaled.value - below * step
      let up := above * step - scaled.value
      if down < up then some below
      else if up < down then some above
      else match tie with
        | .away => some above
        | .even => if below % 2 = 0 then some below else some above
  | true, false => some below
  | false, true => some above
  | false, false => none

end RoundingInterval

namespace Binary

variable {format : BinaryFormat}

/-- A power of ten above the number `significand * 2 ^ exponent`, by its exponent, and at
most two too large for numbers of up to 64 bits. -/
def powerOfTenAbove (significand : Nat) (exponent : Int) : Int :=
  ((significand.log2 : Int) + exponent + 1) * 30103 / 100000 + 1

/-- Coefficient and exponent of the shortest decimal of `significand * 2 ^ exponent`. No number
of up to 64 bits needs more than twenty-four grids; past them the exact value is written. -/
def shortestParts (tie : TieRule) (format : BinaryFormat) (significand : Nat) (exponent : Int) :
    Nat × Int :=
  let interval := RoundingInterval.ofParts format significand exponent
  let top := powerOfTenAbove significand exponent
  let found := (List.range 24).findSome? fun (step : Nat) =>
    let power := top - (step : Int)
    (interval.nearestOnGrid? tie power).map fun coefficient => (coefficient, power)
  found.getD
    (if 0 ≤ exponent then (significand * 2 ^ exponent.toNat, 0)
     else (significand * 5 ^ (-exponent).toNat, exponent))

def shortest (tie : TieRule) (number : Binary format) : Numeral :=
  match number.reading with
  | .notANumber => .notANumber
  | .infinite negative => .infinite negative
  | .finite negative 0 _ => .finite ⟨negative, 0, 0⟩
  | .finite negative significand exponent =>
      let (coefficient, power) := shortestParts tie format significand exponent
      .finite ⟨negative, coefficient, power⟩

end Binary

end Persistence
