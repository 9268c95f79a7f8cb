/-
  ConnectionRelay.Logging.Pattern.Escape
  ──────────────────────────────────────
  **BLANKS AND ESCAPES IN PATTERNS.**

  A flag makes blanks not count, and comments, which run from a number sign to the end
  of the line.  They may then stand between the parts of a pattern, and even between
  the digits of an escape, but not after its backslash.
-/
import ConnectionRelay.Logging.Pattern.Basic
import ConnectionRelay.Text.Blank

namespace ConnectionRelay.Logging.Pattern

/-! ## §1. Blanks. -/

/-- Skip blanks and comments. -/
def skipBlanks (inComment : Bool) : List Char → List Char
  | [] => []
  | c :: rest =>
      if inComment then skipBlanks (c ≠ '\n') rest
      else if c = '#' then skipBlanks true rest
      else if Text.isBlank c then skipBlanks false rest
      else c :: rest

/-- Skip what does not count. -/
def skip (m : Mode) (cs : List Char) : List Char :=
  if m.spaced then skipBlanks false cs else cs

/-! ## §2. Escapes. -/

/-- The value of a hexadecimal digit. -/
def hexDigit? (c : Char) : Option Nat :=
  if c.isDigit then some (c.toNat - 0x30)
  else if 'a' ≤ c.toLower && c.toLower ≤ 'f' then some (c.toLower.toNat - 0x57)
  else none

/-- Read so many hexadecimal digits; the number that they and those before them make. -/
def hexNumber? (m : Mode) (n : Nat) : Nat → List Char → Option (Nat × List Char)
  | 0, cs => some (n, cs)
  | digits + 1, cs =>
      match skip m cs with
      | [] => none
      | c :: rest =>
          match hexDigit? c with
          | some d => hexNumber? m (n * 16 + d) digits rest
          | none => none

/-- Read a character by so many digits of its number. -/
def hexChar? (m : Mode) (digits : Nat) (cs : List Char) : Option (Atom × List Char) :=
  match hexNumber? m 0 digits cs with
  | some (n, rest) =>
      if n.isValidChar then some (.literal ⟨Char.ofNat n, digits = 2⟩, rest) else none
  | none => none

/-- Is it one of the general categories that have a name of one letter? -/
def isCategory (c : Char) : Bool := ['c', 'l', 'm', 'n', 'p', 's', 'z'].contains c.toLower

/-- Read the name of a category. -/
def category? (m : Mode) (cs : List Char) : Option (Atom × List Char) :=
  match skip m cs with
  | [] => none
  | name :: rest => if isCategory name then some (.category, rest) else none

/-- Read an escape after its backslash. -/
def escape? (m : Mode) : List Char → Option (Atom × List Char)
  | [] => none
  | c :: rest =>
      let literal (c : Char) : Option (Atom × List Char) := some (.literal ⟨c, false⟩, rest)
      if c = 'x' then hexChar? m 2 rest
      else if c = 'u' then hexChar? m 4 rest
      else if c = 'U' then hexChar? m 8 rest
      else if c = 'p' ∨ c = 'P' then category? m rest
      else if c = 'd' ∨ c = 's' ∨ c = 'w' then some (.kind false, rest)
      else if c = 'D' ∨ c = 'S' ∨ c = 'W' then some (.kind true, rest)
      else if c = 'A' ∨ c = 'z' then some (.edge, rest)
      else if c = 'b' ∨ c = 'B' ∨ c = '<' ∨ c = '>' then some (.wordEdge, rest)
      else if c = 'a' then literal '\x07'
      else if c = 'f' then literal '\x0c'
      else if c = 't' then literal '\t'
      else if c = 'n' then literal '\n'
      else if c = 'r' then literal '\r'
      else if c = 'v' then literal '\x0b'
      else if c.isAlphanum || 0x80 ≤ c.toNat then none
      else literal c

end ConnectionRelay.Logging.Pattern
