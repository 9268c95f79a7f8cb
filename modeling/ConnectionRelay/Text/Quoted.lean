/-
  ConnectionRelay.Text.Quoted
  ───────────────────────────
  **TEXTS IN DOUBLE QUOTES.**

  Descriptions and messages show a text in double quotes, with a backslash before
  quotes and backslashes, short names for the usual controls, and the number of
  every other character that cannot be shown.
-/
import ConnectionRelay.Text.Unprintable

namespace ConnectionRelay.Text

/-- One character of a quoted text. -/
def quoteChar (c : Char) : List Char :=
  match c with
  | '\x00' => ['\\', '0']
  | '\t' => ['\\', 't']
  | '\r' => ['\\', 'r']
  | '\n' => ['\\', 'n']
  | '"' => ['\\', '"']
  | '\\' => ['\\', '\\']
  | c =>
      if isUnprintable c then
        ['\\', 'u', '\x7b'] ++ Nat.toDigits 16 c.toNat ++ ['\x7d']
      else [c]

/-- A text in double quotes. -/
def quoted (s : String) : String :=
  String.ofList ('"' :: s.toList.flatMap quoteChar ++ ['"'])

end ConnectionRelay.Text
