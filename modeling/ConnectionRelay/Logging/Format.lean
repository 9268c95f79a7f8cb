/-
  ConnectionRelay.Logging.Format
  ──────────────────────────────
  **HOW LOG LINES ARE PRINTED.**

  A line is printed as a JSON object or as text, with colours or without.  The time is
  left out of an object, and `<time>` stands for it in a text.  A text shows control
  characters that could steer a terminal by their code.
-/
import ConnectionRelay.Config
import ConnectionRelay.Journal
import ConnectionRelay.Text.Split

namespace ConnectionRelay.Logging

/-- How log lines are printed. -/
inductive Format where
  | object
  | text (color : Bool)
  deriving DecidableEq, Repr

/-- What is printed for a log line. -/
inductive Printed where
  | object (value : Json)
  | text (line : String)

namespace Format

/-- The format of the settings: objects for `json` in any case, else text. -/
def ofConfig (c : Config) : Format :=
  if Text.sameAsciiLetters c.logFormat "json" then .object else .text c.logColor

/-- A log line as an object. -/
def toObject (line : LogLine) : Json :=
  let flags := line.flags.map fun flag => (flag.1, some (.bool flag.2))
  .record
    [("fields", some (.record (("message", some (.str line.message)) :: flags))),
     ("level", some (.str line.level.name)),
     ("target", some (.str line.origin.target))]

/-! ## §1. Text. -/

/-- The digits of a code below 256. -/
def code (c : Char) : List Char :=
  [Bytes.hexDigit (c.toNat / 16), Bytes.hexDigit (c.toNat % 16)]

/-- Show a character; one that could steer a terminal is shown by its code. -/
def showChar (c : Char) : List Char :=
  let n := c.toNat
  if n = 0x1B ∨ n = 0x07 ∨ n = 0x08 ∨ n = 0x0C ∨ n = 0x7F then ['\\', 'x'] ++ code c
  else if 0x80 ≤ n ∧ n ≤ 0x9F then ['\\', 'u', '{'] ++ code c ++ ['}']
  else [c]

/-- Show a message. -/
def showMessage (s : String) : String := String.ofList (s.toList.flatMap showChar)

/-- The colour of a level. -/
def color : Level → String
  | .error => "31"
  | .warn => "33"
  | .info => "32"
  | .debug => "34"
  | .trace => "35"

/-- Put a colour on a text. -/
def paint (color : Option String) (s : String) : String :=
  match color with
  | some c => "\x1b[" ++ c ++ "m" ++ s ++ "\x1b[0m"
  | none => s

/-- The name of a level, five wide. -/
def levelText (l : Level) : String :=
  if l.name.length < 5 then " " ++ l.name else l.name

/-- A truth value, which stands before the message. -/
def flagText (colored : Bool) (flag : String × Bool) : String :=
  let slanted := if colored then some "3" else none
  let dim := if colored then some "2" else none
  paint slanted flag.1 ++ paint dim "=" ++ (if flag.2 then "true" else "false") ++ " "

/-- A log line as text. -/
def toText (colored : Bool) (line : LogLine) : String :=
  let dim := if colored then some "2" else none
  let level := if colored then some (color line.level) else none
  paint dim "<time>" ++ " " ++ paint level (levelText line.level) ++ " "
    ++ paint dim line.origin.target ++ paint dim ":" ++ " "
    ++ .join (line.flags.map (flagText colored)) ++ showMessage line.message

/-- What is printed for a log line; a message may run over several lines. -/
def print (f : Format) (line : LogLine) : List Printed :=
  match f with
  | .object => [.object (toObject line)]
  | .text colored =>
      (Text.split '\n' (toText colored line).toList).map fun cs => .text (String.ofList cs)

end Format

end ConnectionRelay.Logging
