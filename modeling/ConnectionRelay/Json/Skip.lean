/-
  ConnectionRelay.Json.Skip
  ─────────────────────────
  **SKIPPING VALUES OF A JSON TEXT.**

  A value that nobody wants is skipped without being read: it may be nested as deep as
  it likes, its numbers may be too large and its strings may hold lone surrogates.
  What is left of the grammar is checked by a machine that keeps the lists and objects
  around its place on a stack.
-/
import ConnectionRelay.Json.Reader

namespace ConnectionRelay.Json

/-! ## §1. Values without parts. -/

/-- Skip an escape after its backslash. -/
def skipEscape (cs : List Char) : Reading (List Char) :=
  match cs with
  | [] => .error (.within .endInString [])
  | 'u' :: rest => (readHex rest).map (·.2)
  | c :: rest =>
      if (shortEscape? c).isSome then .ok rest else .error (.within .invalidEscape cs)

/-- Skip the characters of a string up to its closing quote; `fuel` bounds their
number. -/
def skipChars : Nat → List Char → Reading (List Char)
  | 0, _ => .error (.within .endInString [])
  | _ + 1, [] => .error (.within .endInString [])
  | fuel + 1, c :: rest =>
      if c = '"' then .ok rest
      else if c = '\\' then (skipEscape rest).bind (skipChars fuel)
      else if c.toNat < 0x20 then .error (.before .controlCharacter (c :: rest))
      else skipChars fuel rest

/-- Skip a string after its opening quote. -/
def skipString (cs : List Char) : Reading (List Char) := skipChars (cs.length + 1) cs

/-- Skip digits, of which there is at least one. -/
def skipDigits (cs : List Char) : Reading (List Char) :=
  match cs with
  | [] => .error (.within .invalidNumber [])
  | c :: rest =>
      if c.isDigit then .ok (rest.dropWhile Char.isDigit)
      else .error (.within .invalidNumber cs)

/-- Skip an exponent after its letter. -/
def skipExponent (cs : List Char) : Reading (List Char) :=
  match cs with
  | '+' :: rest => skipDigits rest
  | '-' :: rest => skipDigits rest
  | _ => skipDigits cs

/-- Skip an exponent, if there is one. -/
def skipTail (cs : List Char) : Reading (List Char) :=
  match cs with
  | 'e' :: rest => skipExponent rest
  | 'E' :: rest => skipExponent rest
  | _ => .ok cs

/-- Skip a number after its sign. -/
def skipNumber (cs : List Char) : Reading (List Char) := do
  let rest ← skipDigits cs
  if cs.head? = some '0' ∧ rest.length + 1 < cs.length then
    .error (.within .invalidNumber cs.tail)
  else
    match rest with
    | '.' :: fraction => do
        let rest ← skipDigits fraction
        skipTail rest
    | _ => skipTail rest

/-- Skip a value that is neither a list nor an object, at its first character. -/
def skipScalar (cs : List Char) : Reading (List Char) :=
  match cs with
  | [] => .error (.within .endInValue [])
  | c :: rest =>
      if c = 'n' then readWord ['u', 'l', 'l'] rest
      else if c = 't' then readWord ['r', 'u', 'e'] rest
      else if c = 'f' then readWord ['a', 'l', 's', 'e'] rest
      else if c = '"' then skipString rest
      else if c = '-' then skipNumber rest
      else if c.isDigit then skipNumber cs
      else .error (.within .expectedValue cs)

/-! ## §2. The machine. -/

/-- What is around the place that is skipped. -/
inductive Frame where
  | list
  | object
  deriving DecidableEq, Repr

namespace Frame

/-- The character that ends it. -/
def closing : Frame → Char
  | .list => ']'
  | .object => '\x7d'

/-- The fault of a text that ends in it. -/
def cutShort : Frame → Fault
  | .list => .endInList
  | .object => .endInObject

/-- The fault of a part that no comma follows. -/
def missingComma : Frame → Fault
  | .list => .expectedCommaOrBracket
  | .object => .expectedCommaOrBrace

end Frame

/-- Where skipping stands. -/
inductive Stage where
  /-- A value must follow. -/
  | value
  /-- After the bracket or brace of the innermost frame. -/
  | opened
  /-- After a whole value. -/
  | whole
  deriving DecidableEq, Repr

/-- Skip a key and its colon. -/
def skipKey (cs : List Char) : Reading (List Char) :=
  match skipSpace cs with
  | [] => .error (.within .endInObject [])
  | '"' :: rest => (skipString rest).bind readColon
  | rest => .error (.within .keyNotString rest)

/-- Go to the next value of a frame. -/
def skipToValue (frame : Frame) (cs : List Char) : Reading (List Char) :=
  match frame with
  | .list => .ok cs
  | .object => skipKey cs

/-- Skip what is left of a value in its frames; `fuel` bounds the steps. -/
def skipOn : Nat → List Frame → Stage → List Char → Reading (List Char)
  | 0, _, _, _ => .error (.within .endInValue [])
  | fuel + 1, frames, .value, cs =>
      match skipSpace cs with
      | '[' :: rest => skipOn fuel (.list :: frames) .opened rest
      | '\x7b' :: rest => skipOn fuel (.object :: frames) .opened rest
      | cs => (skipScalar cs).bind (skipOn fuel frames .whole)
  | _ + 1, [], _, cs => .ok cs
  | fuel + 1, frame :: frames, stage, cs =>
      match skipSpace cs with
      | [] => .error (.within frame.cutShort [])
      | c :: rest =>
          if c = frame.closing then skipOn fuel frames .whole rest
          else if stage = .opened then
            (skipToValue frame (c :: rest)).bind (skipOn fuel (frame :: frames) .value)
          else if c = ',' then
            (skipToValue frame rest).bind (skipOn fuel (frame :: frames) .value)
          else .error (.within frame.missingComma (c :: rest))

/-- Skip a value. -/
def skipValue (cs : List Char) : Reading (List Char) :=
  skipOn (2 * cs.length + 2) [] .value cs

end ConnectionRelay.Json
