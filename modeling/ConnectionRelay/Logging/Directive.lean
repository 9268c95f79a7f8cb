/-
  ConnectionRelay.Logging.Directive
  ─────────────────────────────────
  **DIRECTIVES OF A FILTER.**

  A directive gives a level, a part of the relay by the start of its target, or both;
  it may ask for a span and for a field, too:

      target[span{field=value}]=level

  It is read without the blanks around it, but its parts are cut out of the text with
  the blanks, at the same numbers of bytes from the start.  So blanks at the end belong
  to a last target or level, and blanks at the start shift every part.
-/
import ConnectionRelay.Journal
import ConnectionRelay.Logging.Pattern.Reader
import ConnectionRelay.Text.Blank
import ConnectionRelay.Text.Lowercase
import ConnectionRelay.Text.Place

namespace ConnectionRelay.Logging

/-- A directive. -/
structure Directive where
  /-- How the targets it matches start. -/
  target : List Char := []
  /-- The fields that lines must have. -/
  fields : List (List Char) := []
  /-- Does it ask for a span, or for the value of a field of one?  No line is in a
  span. -/
  special : Bool := false
  /-- How much detail it lets through. -/
  limit : Nat := Level.trace.detail
  deriving DecidableEq, Repr

namespace Directive

/-! ## §1. Levels. -/

/-- The names of the levels. -/
def levelNames : List (String × Nat) :=
  [("off", 0), ("error", 1), ("warn", 2), ("info", 3), ("debug", 4), ("trace", 5)]

/-- The number that digits stand for, after a plus sign or none. -/
def number? (cs : List Char) : Option Nat :=
  let digits := if cs.head? = some '+' then cs.tail else cs
  if digits.isEmpty || !digits.all Char.isDigit then none
  else some (digits.foldl (fun n c => n * 10 + (c.toNat - 0x30)) 0)

/-- The detail of a level: a number from 0 to 5, or a name in any case. -/
def limit? (cs : List Char) : Option Nat :=
  match number? cs with
  | some n => if n ≤ 5 then some n else none
  | none =>
      (levelNames.find? fun name => Text.sameAsciiLetters name.1 (String.ofList cs)).map (·.2)

/-! ## §2. Fields. -/

/-- Is the text a decimal fraction without a sign, with an exponent or none? -/
def isFraction (cs : List Char) : Bool :=
  let whole := cs.takeWhile Char.isDigit
  let (places, rest) :=
    match cs.dropWhile Char.isDigit with
    | '.' :: rest => (rest.takeWhile Char.isDigit, rest.dropWhile Char.isDigit)
    | rest => ([], rest)
  let isExponent : List Char → Bool
    | [] => true
    | e :: rest =>
        let digits := if rest.head? = some '+' ∨ rest.head? = some '-' then rest.tail else rest
        (e = 'e' || e = 'E') && !digits.isEmpty && digits.all Char.isDigit
  !(whole.isEmpty && places.isEmpty) && isExponent rest

/-- Is the text a number? -/
def isNumber (cs : List Char) : Bool :=
  let cs := if cs.head? = some '+' ∨ cs.head? = some '-' then cs.tail else cs
  isFraction cs
    || ["inf", "infinity", "nan"].any fun word => Text.sameAsciiLetters word (String.ofList cs)

/-- Ask for a field: a name, and after an equals sign a value, which is a number or a
pattern.  What follows another equals sign does not count. -/
def withField (d : Directive) (field : List Char) : Option Directive :=
  let name := field.takeWhile (· ≠ '=')
  match field.dropWhile (· ≠ '=') with
  | [] => some { d with fields := [name] }
  | _ :: rest =>
      let value := rest.takeWhile (· ≠ '=')
      if isNumber value || Pattern.isPattern value then
        some { d with fields := [name], special := true }
      else none

/-! ## §3. Reading. -/

/-- The part of a directive that is read, and at which byte it began. -/
inductive Place where
  | start
  | name
  | span («from» : Nat)
  | field («from» : Nat)
  /-- A bracket must follow. -/
  | closing
  /-- A level may follow. -/
  | closed
  | level («from» : Nat)

/-- The characters that begin at these bytes of a text. -/
def cut : List Char → Nat → Nat → List Char
  | [], _, _ => []
  | c :: rest, first, last =>
      if last = 0 then []
      else
        let tail := cut rest (first - c.utf8Size) (last - c.utf8Size)
        if first = 0 then c :: tail else tail

/-- The characters of a text from a byte on. -/
def cutFrom (text : List Char) (first : Nat) : List Char :=
  cut text first (Text.byteCount text)

/-- May a target or a level start like this? -/
def isStart (c : Char) : Bool :=
  c = '-' || c = ':' || c = '_' || Text.isAlphanumeric c

/-- Read one character, which begins at a byte. -/
def step (text : List Char) (d : Directive) (place : Place) (byte : Nat) (c : Char) :
    Option (Directive × Place) :=
  match place with
  | .start =>
      if c = '[' then some (d, .span (byte + 1))
      else if isStart c then some (d, .name)
      else none
  | .name =>
      if c = '=' then some ({ d with target := cut text 0 byte }, .level (byte + 1))
      else if c = '[' then some ({ d with target := cut text 0 byte }, .span (byte + 1))
      else some (d, place)
  | .span first =>
      if c = ']' then some ({ d with special := true }, .closed)
      else if c = '{' then some ({ d with special := first ≠ byte }, .field (byte + 1))
      else some (d, place)
  | .field first =>
      if c = '}' then
        if first = byte then none
        else (d.withField (cut text first byte)).map fun d => (d, .closing)
      else some (d, place)
  | .closing => if c = ']' then some (d, .closed) else none
  | .closed => if c = '=' then some (d, .level (byte + 1)) else none
  | .level _ => some (d, place)

/-- Finish with a level; nothing lets everything through. -/
def withLimit (d : Directive) (level : List Char) : Option Directive :=
  if level.isEmpty then some d else (limit? level).map fun limit => { d with limit }

/-- What was read, at the end of the text. -/
def finish (text : List Char) (d : Directive) : Place → Option Directive
  | .name =>
      match limit? text with
      | some limit => some { d with limit }
      | none => some { d with target := text }
  | .level first => d.withLimit (cutFrom text first)
  | .closed => some d
  | _ => none

/-- Read characters from a byte on. -/
def readFrom (text : List Char) (d : Directive) (place : Place) :
    Nat → List Char → Option Directive
  | _, [] => d.finish text place
  | byte, c :: rest =>
      match d.step text place byte c with
      | some (d, place) => readFrom text d place (byte + c.utf8Size) rest
      | none => none

/-- Read a directive that may have blanks around it. -/
def parse? (text : List Char) : Option Directive := readFrom text {} .start 0 (Text.trim text)

/-! ## §4. Matching. -/

/-- Does a directive match a line? -/
def isMatch (d : Directive) (line : LogLine) : Bool :=
  !d.special && d.target.isPrefixOf line.origin.target.toList
    && d.fields.all fun field => line.fieldNames.contains (String.ofList field)

/-- Is the first directive more general than the second, or its equal? -/
def isBelow (d e : Directive) : Bool :=
  d.target.length < e.target.length
    || (d.target.length == e.target.length && d.fields.length ≤ e.fields.length)

end Directive

end ConnectionRelay.Logging
