/-
  ConnectionRelay.Text.Base64
  ───────────────────────────
  **THE STANDARD PADDED BASE64 FORM OF BYTES.**

  Three bytes make four digits of six bits; a last group of one or two bytes is
  filled up with `=`.  `decode` accepts the canonical form alone: no missing or
  extra padding, no foreign character, and no stray bits under the padding.  Main
  statement: `decode (encode bs) = some bs`.
-/
import ConnectionRelay.Bytes

namespace ConnectionRelay.Text.Base64

/-! ## §1. Digits. -/

/-- The digit of a number below sixty-four. -/
def digit (n : Nat) : Char :=
  if n < 26 then Char.ofNat (0x41 + n)
  else if n < 52 then Char.ofNat (0x61 + (n - 26))
  else if n < 62 then Char.ofNat (0x30 + (n - 52))
  else if n = 62 then '+'
  else '/'

/-- The value of a digit. -/
def value? (c : Char) : Option Nat :=
  if 'A' ≤ c && c ≤ 'Z' then some (c.toNat - 0x41)
  else if 'a' ≤ c && c ≤ 'z' then some (c.toNat - 0x61 + 26)
  else if '0' ≤ c && c ≤ '9' then some (c.toNat - 0x30 + 52)
  else if c = '+' then some 62
  else if c = '/' then some 63
  else none

theorem value?_digit : ∀ n < 64, value? (digit n) = some n := by decide

/-! ## §2. Writing and reading. -/

/-- Write bytes, three at a time. -/
def encodeChars : Bytes → List Char
  | [] => []
  | [a] => [digit (a.toNat / 4), digit (a.toNat % 4 * 16), '=', '=']
  | [a, b] =>
      [digit (a.toNat / 4), digit (a.toNat % 4 * 16 + b.toNat / 16),
       digit (b.toNat % 16 * 4), '=']
  | a :: b :: c :: rest =>
      digit (a.toNat / 4) :: digit (a.toNat % 4 * 16 + b.toNat / 16)
        :: digit (b.toNat % 16 * 4 + c.toNat / 64) :: digit (c.toNat % 64)
        :: encodeChars rest

/-- The three bytes of four digits. -/
def group (a b c d : Nat) : Bytes :=
  [UInt8.ofNat (a * 4 + b / 16), UInt8.ofNat (b % 16 * 16 + c / 4),
   UInt8.ofNat (c % 4 * 64 + d)]

/-- The bytes of a last group, whose padding is already off. -/
def lastGroup (a b : Nat) : Option Nat → Option Bytes
  | none => if b % 16 = 0 then some [UInt8.ofNat (a * 4 + b / 16)] else none
  | some c =>
      if c % 4 = 0 then
        some [UInt8.ofNat (a * 4 + b / 16), UInt8.ofNat (b % 16 * 16 + c / 4)]
      else none

/-- Read digits, four at a time. -/
def decodeChars : List Char → Option Bytes
  | [] => some []
  | a :: b :: c :: d :: rest =>
      match value? a, value? b, value? c, value? d with
      | some va, some vb, some vc, some vd => (decodeChars rest).map (group va vb vc vd ++ ·)
      | some va, some vb, some vc, none =>
          if d = '=' ∧ rest = [] then lastGroup va vb (some vc) else none
      | some va, some vb, none, none =>
          if c = '=' ∧ d = '=' ∧ rest = [] then lastGroup va vb none else none
      | _, _, _, _ => none
  | _ => none

/-- The base64 text of bytes. -/
def encode (bs : Bytes) : String := String.ofList (encodeChars bs)

/-- The bytes of a canonical base64 text. -/
def decode (s : String) : Option Bytes := decodeChars s.toList

/-! ## §3. Reading undoes writing. -/

theorem ofNat_eq_of_toNat {n : Nat} {a : UInt8} (h : n = a.toNat) : UInt8.ofNat n = a := by
  subst h
  exact UInt8.ofNat_toNat

theorem decodeChars_encodeChars (bs : Bytes) : decodeChars (encodeChars bs) = some bs := by
  have hpad : value? '=' = none := by decide
  induction bs using encodeChars.induct with
  | case1 => rfl
  | case2 a =>
      have ha := a.toNat_lt
      have h1 := value?_digit (a.toNat / 4) (by omega)
      have h2 := value?_digit (a.toNat % 4 * 16) (by omega)
      simp only [encodeChars, decodeChars, h1, h2, hpad, lastGroup]
      rw [if_pos (by simp), if_pos (by omega), ofNat_eq_of_toNat (a := a) (by omega)]
  | case3 a b =>
      have ha := a.toNat_lt
      have hb := b.toNat_lt
      have h1 := value?_digit (a.toNat / 4) (by omega)
      have h2 := value?_digit (a.toNat % 4 * 16 + b.toNat / 16) (by omega)
      have h3 := value?_digit (b.toNat % 16 * 4) (by omega)
      simp only [encodeChars, decodeChars, h1, h2, h3, hpad, lastGroup]
      rw [if_pos (by simp), if_pos (by omega), ofNat_eq_of_toNat (a := a) (by omega),
        ofNat_eq_of_toNat (a := b) (by omega)]
  | case4 a b c rest ih =>
      have ha := a.toNat_lt
      have hb := b.toNat_lt
      have hc := c.toNat_lt
      have h1 := value?_digit (a.toNat / 4) (by omega)
      have h2 := value?_digit (a.toNat % 4 * 16 + b.toNat / 16) (by omega)
      have h3 := value?_digit (b.toNat % 16 * 4 + c.toNat / 64) (by omega)
      have h4 := value?_digit (c.toNat % 64) (by omega)
      simp only [encodeChars, decodeChars, h1, h2, h3, h4, ih, group, Option.map_some]
      rw [ofNat_eq_of_toNat (a := a) (by omega), ofNat_eq_of_toNat (a := b) (by omega),
        ofNat_eq_of_toNat (a := c) (by omega)]
      rfl

theorem decode_encode (bs : Bytes) : decode (encode bs) = some bs := by
  simp [decode, encode, decodeChars_encodeChars]

end ConnectionRelay.Text.Base64
