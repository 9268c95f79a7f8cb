/-
  ConnectionRelay.Bytes
  ─────────────────────
  **BYTE STRINGS AND THEIR HEXADECIMAL FORM.**

  The value of a connection detail is opaque: a list of bytes.  Texts become bytes
  through UTF-8, and bytes are shown as two lower-case hexadecimal digits each.
-/

namespace ConnectionRelay

/-- An opaque value. -/
abbrev Bytes := List UInt8

namespace Bytes

/-- The UTF-8 form of a text. -/
def ofText (s : String) : Bytes := s.toUTF8.toList

/-- The text that these bytes are the UTF-8 form of, if there is one. -/
def toText? (bs : Bytes) : Option String := String.fromUTF8? (ByteArray.mk bs.toArray)

/-- The hexadecimal digit of a number below sixteen. -/
def hexDigit (n : Nat) : Char :=
  if n < 10 then Char.ofNat (0x30 + n) else Char.ofNat (0x57 + n)

/-- The value of a hexadecimal digit, in either case. -/
def hexValue? (c : Char) : Option Nat :=
  if '0' ≤ c && c ≤ '9' then some (c.toNat - 0x30)
  else if 'a' ≤ c && c ≤ 'f' then some (c.toNat - 0x57)
  else if 'A' ≤ c && c ≤ 'F' then some (c.toNat - 0x37)
  else none

/-- Two digits for each byte. -/
def toHex (bs : Bytes) : String :=
  String.ofList (bs.flatMap fun b => [hexDigit (b.toNat / 16), hexDigit (b.toNat % 16)])

/-- Read pairs of digits. -/
def ofHexChars : List Char → Option Bytes
  | [] => some []
  | a :: b :: rest => do
      let hi ← hexValue? a
      let lo ← hexValue? b
      let bs ← ofHexChars rest
      pure (UInt8.ofNat (hi * 16 + lo) :: bs)
  | [_] => none

/-- The bytes of a hexadecimal text. -/
def ofHex? (s : String) : Option Bytes := ofHexChars s.toList

end Bytes

end ConnectionRelay
