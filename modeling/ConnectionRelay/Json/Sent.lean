/-
  ConnectionRelay.Json.Sent
  ─────────────────────────
  **VALUES SENT AS TEXT.**

  Who gets a value as text gets what reading the text gives.  That is the value itself,
  but for its binary64 numbers: a number is written with the fewest digits that tell it
  apart, and reading them multiplies by a power of ten, which may round to a neighbour.
-/
import ConnectionRelay.Json.Printer
import ConnectionRelay.Json.Reader

namespace ConnectionRelay.Json

/-- A number that was sent. -/
def sentNumber : JsonNumber → JsonNumber
  | .int n => .int n
  | .real bits =>
      match readScalar (renderNumber (.real bits)).toList with
      | .ok (.num n, _) => n
      | _ => .real bits

mutual

/-- A value that was sent. -/
def sent : Json → Json
  | .null => .null
  | .bool b => .bool b
  | .num n => .num (sentNumber n)
  | .str s => .str s
  | .arr items => .arr (sentItems items)
  | .obj fields => .obj (sentFields fields)

/-- Items that were sent. -/
def sentItems : List Json → List Json
  | [] => []
  | v :: vs => sent v :: sentItems vs

/-- Fields that were sent. -/
def sentFields : List (String × Json) → List (String × Json)
  | [] => []
  | (k, v) :: fs => (k, sent v) :: sentFields fs

end

end ConnectionRelay.Json
