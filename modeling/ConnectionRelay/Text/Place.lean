/-
  ConnectionRelay.Text.Place
  ──────────────────────────
  **PLACES IN A TEXT.**

  A place is told by its line, counted from one, and by the bytes between the start of
  the line and it.
-/

namespace ConnectionRelay.Text

/-- The number of bytes of a text. -/
def byteCount : List Char → Nat
  | [] => 0
  | c :: cs => c.utf8Size + byteCount cs

/-- A place in a text. -/
structure Place where
  line : Nat := 1
  /-- The bytes before the place in its line. -/
  column : Nat := 0
  deriving DecidableEq, Repr

namespace Place

/-- The place so many bytes behind another one, from which on the text goes like this. -/
def advance (place : Place) : (offset : Nat) → List Char → Place
  | _, [] => place
  | offset, c :: rest =>
      if offset < c.utf8Size then { place with column := place.column + offset }
      else if c = '\n' then advance ⟨place.line + 1, 0⟩ (offset - c.utf8Size) rest
      else
        advance { place with column := place.column + c.utf8Size } (offset - c.utf8Size) rest

/-- The place at an offset in bytes from the start of a text. -/
def ofOffset (text : String) (offset : Nat) : Place := advance {} offset text.toList

end Place

end ConnectionRelay.Text
