/-
  ConnectionRelay.Text.Alphanumeric
  ─────────────────────────────────
  **LETTERS AND NUMBERS.**

  The names in a logging directive are made of them, beside a few signs.
-/
import ConnectionRelay.Text.Alphabetic
import ConnectionRelay.Text.Numeric

namespace ConnectionRelay.Text

/-- Is it a letter or a number? -/
def isAlphanumeric (c : Char) : Bool := isAlphabetic c || isNumeric c

end ConnectionRelay.Text
