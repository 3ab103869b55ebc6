/-!
# Code units

A text as the sequence of its UTF-16 code units and as the sequence of its UTF-8 bytes.
-/

set_option autoImplicit false

namespace Persistence.Text

def charUnits (character : Char) : List Nat :=
  let code := character.toNat
  if code < 0x10000 then [code]
  else [0xD800 + (code - 0x10000) / 0x400, 0xDC00 + (code - 0x10000) % 0x400]

def units16 (text : String) : List Nat := text.toList.flatMap charUnits

def utf8Bytes (text : String) : List UInt8 := text.toList.flatMap String.utf8EncodeChar

end Persistence.Text
