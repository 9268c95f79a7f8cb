/-
  ConnectionRelay.Text.Base64.Flaw
  ────────────────────────────────
  **WHY A TEXT IS NO BASE64.**

  Symbols and offsets are those of bytes.  A foreign symbol is told before a wrong
  length, that before wrong padding, and stray bits under the padding come last.  A
  foreign symbol at the end of a text with one byte too many is told before any other.
-/
import ConnectionRelay.Text.Base64

namespace ConnectionRelay.Text.Base64

/-- What is wrong with a text. -/
inductive Flaw where
  /-- A byte that is no digit, or padding where none may be. -/
  | symbol (byte : UInt8) (offset : Nat)
  /-- A last group of one digit. -/
  | length (n : Nat)
  | padding
  /-- A last digit with bits under the padding. -/
  | lastSymbol (byte : UInt8) (offset : Nat)
  deriving DecidableEq, Repr

/-- The text of a flaw. -/
def Flaw.message : Flaw → String
  | .symbol byte offset =>
      "Invalid symbol " ++ toString byte.toNat ++ ", offset " ++ toString offset ++ "."
  | .length n => "Invalid input length: " ++ toString n
  | .padding => "Invalid padding"
  | .lastSymbol byte offset =>
      "Invalid last symbol " ++ toString byte.toNat ++ ", offset " ++ toString offset ++ "."

namespace Flaw

/-- The byte of padding. -/
def pad : UInt8 := 0x3D

/-- Is the byte a digit? -/
def isDigit (b : UInt8) : Bool := (value? (Char.ofNat b.toNat)).isSome

/-- The first byte that is no digit, if there is one. -/
def foreign? (offset : Nat) : Bytes → Option Flaw
  | [] => none
  | b :: rest => if isDigit b then foreign? (offset + 1) rest else some (.symbol b offset)

/-- A last group, as far as it is read. -/
structure Group where
  /-- The offset of the group. -/
  start : Nat
  digits : Nat := 0
  padding : Nat := 0
  lastDigit : UInt8 := 0
  deriving DecidableEq, Repr

/-- The flaw in the rest of a last group. -/
def ofGroup (g : Group) : Bytes → Flaw
  | [] =>
      if g.digits < 2 then .length (g.start + g.digits)
      else if (g.digits + g.padding) % 4 ≠ 0 then .padding
      else .lastSymbol g.lastDigit (g.start + g.digits - 1)
  | b :: rest =>
      if b = pad then
        if g.digits < 2 then .symbol pad (g.start + g.digits)
        else ofGroup { g with padding := g.padding + 1 } rest
      else if g.padding ≠ 0 then .symbol pad (g.start + g.digits)
      else if isDigit b then ofGroup { g with digits := g.digits + 1, lastDigit := b } rest
      else .symbol b (g.start + g.digits)

/-- The flaw of bytes that are no base64 text. -/
def ofBytes (bs : Bytes) : Flaw :=
  let excess := bs.length % 4
  let start := bs.length - (if excess = 0 then 4 else excess)
  let whole : Flaw := (foreign? 0 (bs.take start)).getD (ofGroup { start } (bs.drop start))
  match bs.getLast? with
  | some b =>
      if excess = 1 ∧ b ≠ pad ∧ !isDigit b then .symbol b (bs.length - 1) else whole
  | none => whole

/-- The flaw of a text that is no base64. -/
def ofText (s : String) : Flaw := ofBytes s.toUTF8.toList

end Flaw

end ConnectionRelay.Text.Base64
