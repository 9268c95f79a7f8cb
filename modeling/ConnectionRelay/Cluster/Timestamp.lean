/-
  ConnectionRelay.Cluster.Timestamp
  ─────────────────────────────────
  **POINTS IN TIME.**

  The cluster writes times as `year-month-dayThour:minute:second` with an offset
  from universal time.  A time is kept as seconds since the beginning of 1970 and a
  fraction, and written in universal time without the fraction.  A leap second is
  kept as a second full of nanoseconds upon the one before it, so that it differs
  from the second after it.

  Reading is lenient: numbers may lack leading zeros, blanks may stand before numbers
  and signs, `UTC` may stand for the offset.  It goes from left to right and stops at
  the first fault.
-/
import ConnectionRelay.Cluster.Calendar
import ConnectionRelay.Text.Blank
import ConnectionRelay.Wire.Decoding

namespace ConnectionRelay.Cluster

open Calendar

/-- A point in time. -/
structure Timestamp where
  seconds : Int
  /-- The fraction; a leap second is `10^9` or more upon the second before it. -/
  nanoseconds : Nat := 0
  deriving DecidableEq, Repr

namespace Timestamp

/-! ## §1. Writing. -/

/-- A number with leading zeros. -/
def padded (width : Nat) (n : Int) : List Char :=
  let ds := (toString n.natAbs).toList
  List.replicate (width - ds.length) '0' ++ ds

/-- A year: four digits, or a sign and at least four digits. -/
def yearText (year : Int) : List Char :=
  if 0 ≤ year ∧ year ≤ 9999 then padded 4 year
  else (if year < 0 then '-' else '+') :: padded 4 year

/-- The text of a time. -/
def render (t : Timestamp) : String :=
  let days := t.seconds.fdiv 86400
  let rest := t.seconds - days * 86400
  let date := Date.ofDays days
  let second := rest % 60 + (if Nat.pow 10 9 ≤ t.nanoseconds then 1 else 0)
  String.ofList
    (yearText date.year ++ '-' :: padded 2 date.month ++ '-' :: padded 2 date.day
      ++ 'T' :: padded 2 (rest / 3600) ++ ':' :: padded 2 (rest / 60 % 60)
      ++ ':' :: padded 2 second ++ ['Z'])

/-! ## §2. Faults. -/

/-- Why a text is no time. -/
inductive Flaw where
  | tooShort
  | invalidCharacter
  | outOfRange
  | tooLong
  /-- In universal time, there is no such date any more. -/
  | impossible
  deriving DecidableEq, Repr

/-- The text of a flaw. -/
def Flaw.message : Flaw → String
  | .tooShort => "premature end of input"
  | .invalidCharacter => "input contains invalid characters"
  | .outOfRange => "input is out of range"
  | .tooLong => "trailing input"
  | .impossible => "no possible date and time matching input"

/-! ## §3. Parts of a time. -/

/-- Skip blanks. -/
def skipBlanks (cs : List Char) : List Char := cs.dropWhile Text.isBlank

/-- The number of digits in a row. -/
def ofDigits (ds : List Char) : Nat := ds.foldl (fun n c => n * 10 + (c.toNat - 0x30)) 0

/-- Read one digit or more; `digits` are those that belong to the number. -/
def numberOf (digits : List Char → List Char) (cs : List Char) :
    Except Flaw (Nat × List Char) :=
  let ds := digits cs
  if cs.isEmpty then .error .tooShort
  else if ds.isEmpty then .error .invalidCharacter
  else .ok (ofDigits ds, cs.drop ds.length)

/-- Read a number of at most so many digits. -/
def number (width : Nat) : List Char → Except Flaw (Nat × List Char) :=
  numberOf fun cs => (cs.take width).takeWhile Char.isDigit

/-- Read a number of any length. -/
def longNumber : List Char → Except Flaw (Nat × List Char) :=
  numberOf fun cs => cs.takeWhile Char.isDigit

/-- Read a number of one or two digits between bounds, after blanks. -/
def numberIn (low high : Nat) (cs : List Char) : Except Flaw (Int × List Char) := do
  let (n, cs) ← number 2 (skipBlanks cs)
  if low ≤ n ∧ n ≤ high then .ok (n, cs) else .error .outOfRange

/-- Years fit 32 bits. -/
def readYear (cs : List Char) : Except Flaw (Int × List Char) := do
  let (year, cs) ←
    match skipBlanks cs with
    | '-' :: cs => (longNumber cs).map fun (n, cs) => (-(n : Int), cs)
    | '+' :: cs => (longNumber cs).map fun (n, cs) => ((n : Int), cs)
    | cs => (number 4 cs).map fun (n, cs) => ((n : Int), cs)
  if -Nat.pow 2 31 ≤ year ∧ year < Nat.pow 2 31 then .ok (year, cs) else .error .outOfRange

/-- Read a sign between numbers, after blanks. -/
def readSign (sign : Char) (cs : List Char) : Except Flaw (List Char) :=
  match skipBlanks cs with
  | [] => .error .tooShort
  | c :: cs => if c = sign then .ok cs else .error .invalidCharacter

/-- Read what stands between date and time. -/
def readJoint : List Char → Except Flaw (List Char)
  | [] => .error .tooShort
  | c :: cs =>
      if c = 't' ∨ c = 'T' ∨ c = ' ' then .ok cs else .error .invalidCharacter

/-- Read a fraction of a second, if there is one: nanoseconds, cut off. -/
def readFraction : List Char → Except Flaw (Nat × List Char)
  | '.' :: cs => do
      let (n, rest) ← number 9 cs
      .ok (n * Nat.pow 10 (9 - (cs.length - rest.length)), rest.dropWhile Char.isDigit)
  | cs => .ok (0, cs)

/-- Read two digits below a bound. -/
def twoDigits (bound : Nat) (cs : List Char) : Except Flaw (Nat × List Char) :=
  if Text.byteCount cs < 2 then .error .tooShort
  else
    match cs with
    | a :: b :: rest =>
        let n := ofDigits [a, b]
        if !(a.isDigit && b.isDigit) then .error .invalidCharacter
        else if n < bound then .ok (n, rest)
        else .error .outOfRange
    | _ => .error .invalidCharacter

/-- Read an offset from universal time after its sign, in seconds. -/
def readShift (factor : Int) (cs : List Char) : Except Flaw (Int × List Char) := do
  let (hours, cs) ← twoDigits 100 cs
  let (minutes, cs) ← twoDigits 60 (cs.dropWhile fun c => c = ':' || Text.isBlank c)
  .ok (factor * ((hours : Int) * 3600 + (minutes : Int) * 60), cs)

/-- Read an offset from universal time, in seconds: a letter, `UTC` in any case, or a
sign with hours and minutes. -/
def readOffset (cs : List Char) : Except Flaw (Int × List Char) :=
  if (cs.take 3).map Char.toLower = ['u', 't', 'c'] then .ok (0, cs.drop 3)
  else
    match cs with
    | [] => .error .tooShort
    | c :: cs =>
        if c = 'Z' ∨ c = 'z' then .ok (0, cs)
        else if c = '+' then readShift 1 cs
        else if c = '-' ∨ c = '\u2212' then readShift (-1) cs
        else .error .invalidCharacter

/-! ## §4. Whole times. -/

/-- The first and the last year of which there are dates. -/
def yearRange : Int × Int := (-262143, 262142)

/-- The time of a date, hours, minutes and seconds, a fraction and an offset, which
is less than a day.  The sixtieth second is a leap second. -/
def ofParts (date : Date) (hour minute second : Int) (nanoseconds : Nat) (offset : Int) :
    Except Flaw Timestamp :=
  let isLeap := second = 60
  let inDay := hour * 3600 + minute * 60 + (if isLeap then 59 else second)
  let seconds := date.toDays * 86400 + inDay - offset
  let year := (Date.ofDays (seconds.fdiv 86400)).year
  if date.year < yearRange.1 ∨ yearRange.2 < date.year ∨ !date.exists then
    .error .outOfRange
  else if 86400 ≤ offset.natAbs then .error .outOfRange
  else if year < yearRange.1 ∨ yearRange.2 < year then .error .impossible
  else .ok ⟨seconds, nanoseconds + (if isLeap then Nat.pow 10 9 else 0)⟩

/-- Read a time. -/
def parse (s : String) : Except Flaw Timestamp := do
  let (year, cs) ← readYear s.toList
  let cs ← readSign '-' cs
  let (month, cs) ← numberIn 1 12 cs
  let cs ← readSign '-' cs
  let (day, cs) ← numberIn 1 31 cs
  let cs ← readJoint cs
  let (hour, cs) ← numberIn 0 23 cs
  let cs ← readSign ':' cs
  let (minute, cs) ← numberIn 0 59 cs
  let cs ← readSign ':' cs
  let (second, cs) ← numberIn 0 60 cs
  let (nanoseconds, cs) ← readFraction cs
  let (offset, cs) ← readOffset (skipBlanks cs)
  if !(skipBlanks cs).isEmpty then .error .tooLong
  else ofParts ⟨year, month, day⟩ hour minute second nanoseconds offset

/-- Read a time from a document. -/
def decode : Wire.Decoder Timestamp :=
  Wire.scalar "an RFC 3339 formatted date and time string" fun
    | .str s =>
        some (match parse s with
          | .ok t => .ok t
          | .error flaw => .error (.invalidTime flaw.message))
    | _ => none

/-- Write a time. -/
def toJson (t : Timestamp) : Json := .str t.render

end Timestamp

end ConnectionRelay.Cluster
