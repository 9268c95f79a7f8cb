/-
  ConnectionRelay.Json.Reader
  ───────────────────────────
  **READING JSON TEXT.**

  A reader takes something off the front of a text and gives it with the rest, or it
  stops at the first fault.  Lists and objects are read by two loops (`foldItems`, `foldFields`),
  which leave it to their caller what an item or a field is; `readValue` reads any
  value by them, and the readers of wire types use them, too.

  A number is a whole number while it fits 64 bits (minus zero does not).  Any other
  number is the binary64 product of its leading digits, as many as fit 64 bits, and a
  power of ten.
-/
import ConnectionRelay.Json.Basic
import ConnectionRelay.Json.Fault

namespace ConnectionRelay.Json

/-- What reading a text gives, or where and why it stopped. -/
abbrev Reading := Except (Stop Fault)

/-! ## §1. Characters. -/

/-- The white space of JSON. -/
def isSpace (c : Char) : Bool := c == ' ' || c == '\n' || c == '\t' || c == '\r'

/-- Skip white space. -/
def skipSpace (cs : List Char) : List Char := cs.dropWhile isSpace

/-- The number of a digit. -/
def digitValue (c : Char) : Nat := c.toNat - 0x30

/-- The value of a hexadecimal digit, in either case. -/
def hexDigit? (c : Char) : Option Nat :=
  if c.isDigit then some (c.toNat - 0x30)
  else if 'a' ≤ c && c ≤ 'f' then some (c.toNat - 0x57)
  else if 'A' ≤ c && c ≤ 'F' then some (c.toNat - 0x37)
  else none

/-- The stop where the four digits of an escape should be: at the end of the text if it
has no four bytes, else behind them. -/
def badHex (cs : List Char) : Stop Fault :=
  if Text.byteCount cs < 4 then .within .endInString []
  else ⟨.invalidEscape, Text.byteCount cs - 4⟩

/-- Read the four hexadecimal digits of an escape. -/
def readHex (cs : List Char) : Reading (Nat × List Char) :=
  match cs with
  | a :: b :: c :: d :: rest =>
      match hexDigit? a, hexDigit? b, hexDigit? c, hexDigit? d with
      | some a, some b, some c, some d => .ok (((a * 16 + b) * 16 + c) * 16 + d, rest)
      | _, _, _, _ => .error (badHex cs)
  | _ => .error (badHex cs)

/-! ## §2. Strings. -/

/-- The character that a short escape stands for. -/
def shortEscape? (c : Char) : Option Char :=
  match c with
  | '"' => some '"'
  | '\\' => some '\\'
  | '/' => some '/'
  | 'b' => some '\x08'
  | 'f' => some '\x0c'
  | 'n' => some '\n'
  | 'r' => some '\r'
  | 't' => some '\t'
  | _ => none

/-- Read a second surrogate after a first one. -/
def readLowSurrogate (high : Nat) (cs : List Char) : Reading (Char × List Char) :=
  match cs with
  | '\\' :: 'u' :: digits => do
      let (low, rest) ← readHex digits
      if 0xDC00 ≤ low ∧ low ≤ 0xDFFF then
        .ok (Char.ofNat ((high - 0xD800) * 0x400 + (low - 0xDC00) + 0x10000), rest)
      else .error (.before .loneSurrogate rest)
  | [] => .error (.within .endInString [])
  | ['\\'] => .error (.within .endInString [])
  | '\\' :: rest => .error (.within .brokenSurrogatePair rest)
  | _ => .error (.within .brokenSurrogatePair cs)

/-- Read the character of an escape by number, which may take two surrogates. -/
def readUnicode (cs : List Char) : Reading (Char × List Char) := do
  let (n, rest) ← readHex cs
  if 0xDC00 ≤ n ∧ n ≤ 0xDFFF then .error (.before .loneSurrogate rest)
  else if 0xD800 ≤ n ∧ n ≤ 0xDBFF then readLowSurrogate n rest
  else .ok (Char.ofNat n, rest)

/-- Read an escape after its backslash. -/
def readEscape (cs : List Char) : Reading (Char × List Char) :=
  match cs with
  | [] => .error (.within .endInString [])
  | 'u' :: rest => readUnicode rest
  | c :: rest =>
      match shortEscape? c with
      | some c => .ok (c, rest)
      | none => .error (.within .invalidEscape cs)

/-- Read the characters of a string up to its closing quote; `fuel` bounds their
number. -/
def readChars (read : List Char) : Nat → List Char → Reading (String × List Char)
  | 0, _ => .error (.within .endInString [])
  | _ + 1, [] => .error (.within .endInString [])
  | fuel + 1, c :: rest =>
      if c = '"' then .ok (String.ofList read.reverse, rest)
      else if c = '\\' then do
        let (c, rest) ← readEscape rest
        readChars (c :: read) fuel rest
      else if c.toNat < 0x20 then .error (.before .controlCharacter rest)
      else readChars (c :: read) fuel rest

/-- Read a string after its opening quote. -/
def readString (cs : List Char) : Reading (String × List Char) :=
  readChars [] (cs.length + 1) cs

/-! ## §3. Numbers. -/

/-- The largest number of 64 bits. -/
def wordMax : Nat := Nat.pow 2 64 - 1

/-- Take digits into a significand while it fits 64 bits; the rest of the digits. -/
def absorb (significand : Nat) : List Char → Nat × List Char
  | [] => (significand, [])
  | c :: rest =>
      let next := significand * 10 + digitValue c
      if wordMax < next then (significand, c :: rest) else absorb next rest

/-- The power of ten `10^n` in binary64. -/
def powerOfTen (n : Nat) : Float := Float.ofScientific 1 false n

/-- A significand times a power of ten, in binary64.  Exponents beyond those of the
powers of ten are taken in steps of 308; `none` stands for an overflow. -/
def scale (value : Float) (exponent : Int) : Nat → Option Float
  | 0 => some value
  | fuel + 1 =>
      if exponent.natAbs ≤ 308 then
        if 0 ≤ exponent then
          let product := value * powerOfTen exponent.natAbs
          if product.isInf then none else some product
        else some (value / powerOfTen exponent.natAbs)
      else if value == 0.0 then some value
      else if 0 ≤ exponent then none
      else scale (value / powerOfTen 308) (exponent + 308) fuel

/-- The binary64 number of a sign, a significand and a power of ten. -/
def realOfParts? (negative : Bool) (significand : Nat) (exponent : Int) :
    Option JsonNumber :=
  (scale (UInt64.ofNat significand).toFloat exponent 8).map fun f =>
    .real (if negative then -f else f).toBits

/-- The stop where a digit should be. -/
def missingDigit (rest : List Char) : Stop Fault :=
  .within (if rest.isEmpty then .endInValue else .invalidNumber) rest

/-- The largest exponent that is told apart. -/
def exponentMax : Nat := Nat.pow 2 31 - 1

/-- The rest of a text behind the digit by which an exponent becomes too large; `n` is
the number of the digits before. -/
def behindLargest (n : Nat) : List Char → List Char
  | [] => []
  | c :: rest =>
      let n := n * 10 + digitValue c
      if exponentMax < n then rest else behindLargest n rest

/-- Finish a number from its parts. -/
def finishReal (negative : Bool) (significand : Nat) (exponent : Int) (rest : List Char) :
    Reading (JsonNumber × List Char) :=
  match realOfParts? negative significand exponent with
  | some n => .ok (n, rest)
  | none => .error (.before .numberOutOfRange rest)

/-- Read an exponent after its letter. -/
def readExponent (negative : Bool) (significand : Nat) (exponent : Int) (cs : List Char) :
    Reading (JsonNumber × List Char) :=
  let (down, cs) := match cs with
    | '+' :: rest => (false, rest)
    | '-' :: rest => (true, rest)
    | _ => (false, cs)
  let digits := cs.takeWhile Char.isDigit
  let rest := cs.dropWhile Char.isDigit
  if digits.isEmpty then .error (missingDigit rest)
  else
    let n := digits.foldl (fun n c => min (n * 10 + digitValue c) (exponentMax + 1)) 0
    if exponentMax < n then
      if significand ≠ 0 ∧ ¬ down then
        .error (.before .numberOutOfRange (behindLargest 0 cs))
      else .ok (.real (if negative then -0.0 else 0.0 : Float).toBits, rest)
    else finishReal negative significand (if down then exponent - n else exponent + n) rest

/-- Read what may follow the digits of a number: an exponent or nothing. -/
def readTail (negative : Bool) (significand : Nat) (exponent : Int) (cs : List Char) :
    Reading (JsonNumber × List Char) :=
  match cs with
  | 'e' :: rest => readExponent negative significand exponent rest
  | 'E' :: rest => readExponent negative significand exponent rest
  | _ => finishReal negative significand exponent cs

/-- Read a number after its sign. -/
def readNumber (negative : Bool) (cs : List Char) : Reading (JsonNumber × List Char) :=
  let digits := cs.takeWhile Char.isDigit
  let rest := cs.dropWhile Char.isDigit
  match digits with
  | [] => .error (missingDigit rest)
  | d :: more =>
      if d = '0' ∧ more ≠ [] then .error (.within .invalidNumber cs.tail)
      else
        let (significand, excess) := absorb 0 digits
        match rest with
        | '.' :: fraction =>
            let places := fraction.takeWhile Char.isDigit
            let rest := fraction.dropWhile Char.isDigit
            if places.isEmpty then .error (missingDigit rest)
            else
              let (significand, left) := absorb significand places
              let exponent := (excess.length : Int) - ((places.length - left.length : Nat) : Int)
              readTail negative significand exponent rest
        | 'e' :: _ => readTail negative significand excess.length rest
        | 'E' :: _ => readTail negative significand excess.length rest
        | _ =>
            if excess.isEmpty then
              if ¬ negative then .ok (.int significand, rest)
              else if significand ≠ 0 ∧ significand ≤ Nat.pow 2 63 then
                .ok (.int (-(significand : Int)), rest)
              else finishReal negative significand 0 rest
            else finishReal negative significand excess.length rest

/-! ## §4. Values without parts. -/

/-- Read the letters of a word. -/
def readWord (word : List Char) (cs : List Char) : Reading (List Char) :=
  match word, cs with
  | [], cs => .ok cs
  | _ :: _, [] => .error (.within .endInValue [])
  | w :: ws, c :: rest =>
      if c = w then readWord ws rest else .error (.within .expectedWord (c :: rest))

/-- Read the rest of `null`, `true` or `false`, whose first letter is read. -/
def readName (letters : String) (value : Json) (cs : List Char) : Reading (Json × List Char) :=
  (readWord letters.toList cs).map fun rest => (value, rest)

/-- Read a value that is neither a list nor an object, at its first character. -/
def readScalar (cs : List Char) : Reading (Json × List Char) :=
  match cs with
  | [] => .error (.within .endInValue [])
  | c :: rest =>
      if c = 'n' then readName "ull" .null rest
      else if c = 't' then readName "rue" (.bool true) rest
      else if c = 'f' then readName "alse" (.bool false) rest
      else if c = '"' then (readString rest).map fun (s, rest) => (.str s, rest)
      else if c = '-' then (readNumber true rest).map fun (n, rest) => (.num n, rest)
      else if c.isDigit then (readNumber false cs).map fun (n, rest) => (.num n, rest)
      else .error (.within .expectedValue cs)

/-! ## §5. Lists and objects. -/

/-- Go to the next item of a list, after its bracket or after an item: whether there is
one, and the rest of the text from there on. -/
def nextItem (isFirst : Bool) (cs : List Char) : Reading (Bool × List Char) :=
  match skipSpace cs with
  | [] => .error (.within .endInList [])
  | ']' :: rest => .ok (false, rest)
  | c :: rest =>
      if isFirst then .ok (true, c :: rest)
      else if c = ',' then
        match skipSpace rest with
        | [] => .error (.within .endInValue [])
        | ']' :: rest => .error (.within .trailingComma (']' :: rest))
        | rest => .ok (true, rest)
      else .error (.within .expectedCommaOrBracket (c :: rest))

/-- Read a key at its quote. -/
def readKey (cs : List Char) : Reading (String × List Char) :=
  match cs with
  | '"' :: rest => readString rest
  | _ => .error (.within .keyNotString cs)

/-- Go to the next field of an object, after its brace or after a field: its key, if
there is one, and the rest of the text. -/
def nextField (isFirst : Bool) (cs : List Char) : Reading (Option String × List Char) :=
  match skipSpace cs with
  | [] => .error (.within .endInObject [])
  | '\x7d' :: rest => .ok (none, rest)
  | c :: rest =>
      let key (cs : List Char) : Reading (Option String × List Char) :=
        (readKey cs).map fun (k, rest) => (some k, rest)
      if isFirst then key (c :: rest)
      else if c = ',' then
        match skipSpace rest with
        | [] => .error (.within .endInValue [])
        | '\x7d' :: rest => .error (.within .trailingComma ('\x7d' :: rest))
        | rest => key rest
      else .error (.within .expectedCommaOrBrace (c :: rest))

/-- Read the colon after a key. -/
def readColon (cs : List Char) : Reading (List Char) :=
  match skipSpace cs with
  | [] => .error (.within .endInObject [])
  | c :: rest => if c = ':' then .ok rest else .error (.within .expectedColon (c :: rest))

variable {m : Type → Type} [Monad m] [MonadLiftT Reading m] {σ : Type}

/-- Read the items of a list up to its closing bracket; `fuel` bounds their number. -/
def foldItems (item : σ → List Char → m (σ × List Char)) (isFirst : Bool) (s : σ) :
    Nat → List Char → m (σ × List Char)
  | 0, _ => liftM (.error (.within .endInList []) : Reading (σ × List Char))
  | fuel + 1, cs => do
      match ← (liftM (nextItem isFirst cs) : m _) with
      | (false, rest) => pure (s, rest)
      | (true, rest) => do
          let (s, rest) ← item s rest
          foldItems item false s fuel rest

/-- Read the fields of an object up to its closing brace, each from after its key on;
`fuel` bounds their number. -/
def foldFields (field : String → σ → List Char → m (σ × List Char)) (isFirst : Bool) (s : σ) :
    Nat → List Char → m (σ × List Char)
  | 0, _ => liftM (.error (.within .endInObject []) : Reading (σ × List Char))
  | fuel + 1, cs => do
      match ← (liftM (nextField isFirst cs) : m _) with
      | (none, rest) => pure (s, rest)
      | (some key, rest) => do
          let (s, rest) ← field key s rest
          foldFields field false s fuel rest

/-! ## §6. Values. -/

/-- How deep values may be nested. -/
def depthLimit : Nat := 127

/-- Read a value; the last of repeated keys wins.  Lists and objects may be nested
`depth` deep. -/
def readValue : (depth : Nat) → List Char → Reading (Json × List Char)
  | 0, cs =>
      match skipSpace cs with
      | '[' :: rest => .error (.within .tooDeep ('[' :: rest))
      | '\x7b' :: rest => .error (.within .tooDeep ('\x7b' :: rest))
      | cs => readScalar cs
  | depth + 1, cs =>
      match skipSpace cs with
      | '[' :: rest => do
          let item (vs : List Json) (cs : List Char) : Reading (List Json × List Char) := do
            let (v, cs) ← readValue depth cs
            pure (v :: vs, cs)
          let (vs, rest) ← foldItems item true [] (rest.length + 1) rest
          pure (.arr vs.reverse, rest)
      | '\x7b' :: rest => do
          let field (k : String) (fs : List (String × Json)) (cs : List Char) :
              Reading (List (String × Json) × List Char) := do
            let cs ← readColon cs
            let (v, cs) ← readValue depth cs
            pure (Entries.put k v fs, cs)
          let (fs, rest) ← foldFields field true [] (rest.length + 1) rest
          pure (.obj fs, rest)
      | cs => readScalar cs

/-- The end of a text: nothing but white space may be left over. -/
def readEnd (cs : List Char) : Reading Unit :=
  let rest := skipSpace cs
  if rest.isEmpty then .ok () else .error (.within .trailingCharacters rest)

/-- The value of a text. -/
def ofText (text : String) : Reading Json := do
  let (v, rest) ← readValue depthLimit text.toList
  readEnd rest
  pure v

end ConnectionRelay.Json
