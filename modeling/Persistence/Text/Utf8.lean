/-!
# Reading UTF-8

Bytes read as text. A sequence that is not UTF-8 is refused with the place of its first
fault: how many bytes before it are sound, and how many bytes the faulty sequence has
unless the bytes end inside it.
-/

set_option autoImplicit false

namespace Persistence.Text

-- Powers are those of the core library, whichever other instances are imported.
attribute [local instance (2000)] instPowNat

/-- Where and how bytes fail to be UTF-8. -/
structure Utf8Fault where
  index : Nat
  /-- Length of the faulty sequence, or nothing if the bytes end inside a sequence. -/
  length : Option Nat
deriving DecidableEq, Repr

def Utf8Fault.message (fault : Utf8Fault) : String :=
  match fault.length with
  | some length =>
      "invalid utf-8 sequence of " ++ toString length ++ " bytes from index " ++
        toString fault.index
  | none => "incomplete utf-8 byte sequence from index " ++ toString fault.index

def isContinuation (byte : UInt8) : Bool := 0x80 ≤ byte && byte ≤ 0xBF

/-- Number of bytes after the first one, and the values allowed for the second byte. The
narrowed ranges exclude overlong forms, surrogates and values past the last code point. -/
def sequenceShape? (first : UInt8) : Option (Nat × UInt8 × UInt8) :=
  if 0xC2 ≤ first && first ≤ 0xDF then some (1, 0x80, 0xBF)
  else if first == 0xE0 then some (2, 0xA0, 0xBF)
  else if first == 0xED then some (2, 0x80, 0x9F)
  else if 0xE1 ≤ first && first ≤ 0xEF then some (2, 0x80, 0xBF)
  else if first == 0xF0 then some (3, 0x90, 0xBF)
  else if 0xF1 ≤ first && first ≤ 0xF3 then some (3, 0x80, 0xBF)
  else if first == 0xF4 then some (3, 0x80, 0x8F)
  else none

/-- Reads `remaining` continuation bytes after `taken` bytes of a sequence whose bits so far
are `code`. The error is the length of the faulty sequence. -/
def readContinuations : Nat → Nat → Nat → List UInt8 → Except (Option Nat) (Nat × List UInt8)
  | 0, _, code, bytes => .ok (code, bytes)
  | _ + 1, _, _, [] => .error none
  | remaining + 1, taken, code, byte :: bytes =>
      if isContinuation byte then
        readContinuations remaining (taken + 1) (code * 0x40 + byte.toNat % 0x40) bytes
      else .error (some taken)

def readSequence (first : UInt8) (bytes : List UInt8) :
    Except (Option Nat) (Nat × List UInt8) :=
  match sequenceShape? first with
  | none => .error (some 1)
  | some (following, low, high) =>
      let leadingBits := first.toNat % 2 ^ (6 - following)
      match bytes with
      | [] => .error none
      | second :: rest =>
          if low ≤ second && second ≤ high then
            readContinuations (following - 1) 2 (leadingBits * 0x40 + second.toNat % 0x40) rest
          else .error (some 1)

/-- Reads characters from `index` on; each one takes a byte at least, so `fuel` as large as
the number of bytes never runs out. -/
def readCharacters : Nat → Nat → List UInt8 → Except Utf8Fault (List Char)
  | _, _, [] => .ok []
  | 0, index, _ => .error ⟨index, none⟩
  | fuel + 1, index, first :: bytes =>
      if first < 0x80 then do
        let rest ← readCharacters fuel (index + 1) bytes
        .ok (Char.ofNat first.toNat :: rest)
      else
        match readSequence first bytes with
        | .error length => .error ⟨index, length⟩
        | .ok (code, left) => do
            let rest ← readCharacters fuel (index + 1 + (bytes.length - left.length)) left
            .ok (Char.ofNat code :: rest)

/-- The text that the bytes spell in UTF-8, or their first fault. -/
def ofUtf8 (bytes : List UInt8) : Except Utf8Fault String :=
  (readCharacters bytes.length 0 bytes).map String.ofList

end Persistence.Text
