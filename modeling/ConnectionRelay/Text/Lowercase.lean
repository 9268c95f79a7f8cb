/-
  ConnectionRelay.Text.Lowercase
  ──────────────────────────────
  **LOWER CASE, AS FAR AS ASCII WORDS CAN TELL.**

  Settings are compared with ASCII words in lower case.  Apart from `A` to `Z`,
  two letters of Unicode have a lower case that holds an ASCII letter: the Kelvin
  sign (`k`) and the capital I with a dot above (`i` and a combining dot).  Every
  other letter has a lower case outside ASCII, so leaving it alone decides no
  comparison with an ASCII word.
-/

namespace ConnectionRelay.Text

/-- The lower case of one character. -/
def lowerChar (c : Char) : List Char :=
  if c = '\u212A' then ['k']
  else if c = '\u0130' then ['i', '\u0307']
  else [c.toLower]

/-- The lower case of a text. -/
def lowercase (s : String) : String :=
  String.ofList (s.toList.flatMap lowerChar)

/-- Do two texts differ in the case of ASCII letters only? -/
def sameAsciiLetters (a b : String) : Bool :=
  a.toList.map Char.toLower == b.toList.map Char.toLower

end ConnectionRelay.Text
