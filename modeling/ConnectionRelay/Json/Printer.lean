/-
  ConnectionRelay.Json.Printer
  ────────────────────────────
  **WRITING JSON TEXT.**

  Values are written without white space.  Quotes, backslashes and the controls
  below the space are escaped; every other character stands for itself.
-/
import ConnectionRelay.Json.Basic

namespace ConnectionRelay.Json

/-- Two hexadecimal digits. -/
def twoHexDigits (n : Nat) : List Char :=
  [Nat.digitChar (n / 16), Nat.digitChar (n % 16)]

/-- One character of a string. -/
def escapeChar (c : Char) : List Char :=
  match c with
  | '"' => ['\\', '"']
  | '\\' => ['\\', '\\']
  | '\x08' => ['\\', 'b']
  | '\x0c' => ['\\', 'f']
  | '\n' => ['\\', 'n']
  | '\r' => ['\\', 'r']
  | '\t' => ['\\', 't']
  | c => if c.toNat < 0x20 then ['\\', 'u', '0', '0'] ++ twoHexDigits c.toNat else [c]

/-- A text as a JSON string. -/
def renderString (s : String) : String :=
  String.ofList ('"' :: s.toList.flatMap escapeChar ++ ['"'])

/-- A number. -/
def renderNumber : JsonNumber → String
  | .int n => toString n
  | .real bits => renderReal bits

mutual

/-- The text of a value. -/
def render : Json → String
  | .null => "null"
  | .bool true => "true"
  | .bool false => "false"
  | .num n => renderNumber n
  | .str s => renderString s
  | .arr items => "[" ++ renderItems true items ++ "]"
  | .obj fields => "\x7b" ++ renderFields true fields ++ "\x7d"

/-- The texts of items, with commas between them. -/
def renderItems (isFirst : Bool) : List Json → String
  | [] => ""
  | v :: vs => (if isFirst then "" else ",") ++ render v ++ renderItems false vs

/-- The texts of fields, with commas between them. -/
def renderFields (isFirst : Bool) : List (String × Json) → String
  | [] => ""
  | (k, v) :: fs =>
      (if isFirst then "" else ",") ++ renderString k ++ ":" ++ render v
        ++ renderFields false fs

end

end ConnectionRelay.Json
