/-!
# Hexadecimal text

Lower-case hexadecimal digits of numbers and of bytes, and their reading.
-/

set_option autoImplicit false

namespace Persistence.Text.Hexadecimal

def digit (value : Nat) : Char :=
  if value < 10 then Char.ofNat (48 + value) else Char.ofNat (87 + value)

/-- The value of a hexadecimal digit of either case. -/
def digitValue? (character : Char) : Option Nat :=
  if '0' ≤ character && character ≤ '9' then some (character.toNat - 48)
  else if 'a' ≤ character && character ≤ 'f' then some (character.toNat - 87)
  else if 'A' ≤ character && character ≤ 'F' then some (character.toNat - 55)
  else none

/-- The last `width` hexadecimal digits of a number. -/
def fixedDigits : Nat → Nat → List Char
  | 0, _ => []
  | width + 1, value => fixedDigits width (value / 16) ++ [digit (value % 16)]

/-- The last `width` hexadecimal digits of a number, as text. -/
def fixed (width value : Nat) : String := String.ofList (fixedDigits width value)

def plain (value : Nat) : String := String.ofList (Nat.toDigits 16 value)

def encode (bytes : List UInt8) : String :=
  String.ofList (bytes.flatMap fun byte => fixedDigits 2 byte.toNat)

def value? (digits : List Char) : Option Nat :=
  digits.foldl (fun total character => do
    let total ← total
    let next ← digitValue? character
    some (16 * total + next)) (some 0)

def decodePairs? : List Char → Option (List UInt8)
  | [] => some []
  | [_] => none
  | high :: low :: rest => do
      let high ← digitValue? high
      let low ← digitValue? low
      let bytes ← decodePairs? rest
      some (UInt8.ofNat (16 * high + low) :: bytes)

def decode? (text : String) : Option (List UInt8) := decodePairs? text.toList

end Persistence.Text.Hexadecimal
