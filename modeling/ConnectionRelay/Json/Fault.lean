/-
  ConnectionRelay.Json.Fault
  ──────────────────────────
  **WHAT IS WRONG WITH A JSON TEXT.**

  A reader goes through a text from left to right and stops at the first fault.  Where
  it stops is told by what is left of the text, so that no reader has to count what it
  has read.
-/
import ConnectionRelay.Text.Place

namespace ConnectionRelay

/-- What is wrong with a JSON text at the place where reading stopped. -/
inductive Fault where
  | endInValue
  | endInList
  | endInObject
  | endInString
  | expectedColon
  | expectedCommaOrBracket
  | expectedCommaOrBrace
  | expectedWord
  | expectedValue
  | invalidEscape
  | invalidNumber
  | numberOutOfRange
  | controlCharacter
  | keyNotString
  | loneSurrogate
  | trailingComma
  | trailingCharacters
  | brokenSurrogatePair
  | tooDeep
  deriving DecidableEq, Repr

/-- The text of a fault. -/
def Fault.message : Fault → String
  | .endInValue => "EOF while parsing a value"
  | .endInList => "EOF while parsing a list"
  | .endInObject => "EOF while parsing an object"
  | .endInString => "EOF while parsing a string"
  | .expectedColon => "expected `:`"
  | .expectedCommaOrBracket => "expected `,` or `]`"
  | .expectedCommaOrBrace => "expected `,` or `\x7d`"
  | .expectedWord => "expected ident"
  | .expectedValue => "expected value"
  | .invalidEscape => "invalid escape"
  | .invalidNumber => "invalid number"
  | .numberOutOfRange => "number out of range"
  | .controlCharacter => "control character (\\u0000-\\u001F) found while parsing a string"
  | .keyNotString => "key must be a string"
  | .loneSurrogate => "lone leading surrogate in hex escape"
  | .trailingComma => "trailing comma"
  | .trailingCharacters => "trailing characters"
  | .brokenSurrogatePair => "unexpected end of hex escape"
  | .tooDeep => "recursion limit exceeded"

/-- Why and where reading a text stopped. -/
structure Stop (ε : Type) where
  cause : ε
  /-- The bytes of the text behind the place. -/
  left : Nat
  deriving DecidableEq, Repr

namespace Stop

variable {ε δ : Type}

/-- Stop in front of the rest of a text. -/
def before (cause : ε) (rest : List Char) : Stop ε := ⟨cause, Text.byteCount rest⟩

/-- Stop behind the first byte of the rest of a text, which is at fault, or at its
end. -/
def within (cause : ε) (rest : List Char) : Stop ε := ⟨cause, Text.byteCount rest - 1⟩

/-- Change the cause. -/
def map (f : ε → δ) (s : Stop ε) : Stop δ := ⟨f s.cause, s.left⟩

/-- Where in a text reading stopped. -/
def place (s : Stop ε) (text : String) : Text.Place :=
  .ofOffset text (text.utf8ByteSize - s.left)

end Stop

end ConnectionRelay
