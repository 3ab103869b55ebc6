/-!
# Ranges of code points

A property of characters given as increasing, disjoint ranges of code points.
-/

set_option autoImplicit false

namespace Persistence.Text

/-- Number of ranges that begin at or before the code point, found by bisection between
`low` and `high`. Each step halves what is left, so `fuel` need only exceed its logarithm. -/
def countStartedFrom (ranges : Array (Nat × Nat)) (code : Nat) : Nat → Nat → Nat → Nat
  | 0, low, _ => low
  | fuel + 1, low, high =>
      if low < high then
        let middle := (low + high) / 2
        match ranges[middle]? with
        | none => low
        | some (first, _) =>
            if first ≤ code then countStartedFrom ranges code fuel (middle + 1) high
            else countStartedFrom ranges code fuel low middle
      else low

def inRanges (ranges : Array (Nat × Nat)) (code : Nat) : Bool :=
  match countStartedFrom ranges code (ranges.size.log2 + 2) 0 ranges.size with
  | 0 => false
  | started + 1 =>
      match ranges[started]? with
      | none => false
      | some (_, last) => code ≤ last

end Persistence.Text
