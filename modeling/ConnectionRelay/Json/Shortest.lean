/-
  ConnectionRelay.Json.Shortest
  ─────────────────────────────
  **THE SHORTEST DECIMAL THAT READS BACK AS A BINARY64 NUMBER.**

  A finite nonzero number is `m · 2^q` with a 53-bit `m`.  The reals that round to
  it form an interval around it, whose ends belong to it when `m` is even.  For one,
  two, … seventeen digits the two decimals next to the number are tried against that
  interval, in exact arithmetic: the first digit count with a hit wins, of two hits
  the nearer one, and a tie goes to the even digit.
-/

namespace ConnectionRelay.Json

/-! ## §1. The parts of a number. -/

/-- The magnitude `significand · 2^exponent` of a finite number. -/
structure Magnitude where
  significand : Nat
  exponent : Int
  /-- Is the next smaller number only half as far away as the next larger one? -/
  narrowBelow : Bool

/-- Split the bits of a finite number. -/
def Magnitude.ofBits (bits : UInt64) : Magnitude :=
  let fraction := (bits &&& 0xFFFFFFFFFFFFF).toNat
  let biased := ((bits >>> 52) &&& 0x7FF).toNat
  if biased = 0 then ⟨fraction, -1074, false⟩
  else ⟨fraction + Nat.pow 2 52, (biased : Int) - 1075, fraction == 0 && biased > 1⟩

/-- A positive decimal `digits · 10^exponent`. -/
structure Decimal where
  digits : Nat
  exponent : Int
  deriving DecidableEq, Repr

/-! ## §2. The search. -/

/-- A positive real and its rounding interval, over one denominator. -/
structure Interval where
  low : Nat
  value : Nat
  high : Nat
  denominator : Nat
  /-- Do the ends belong to the interval? -/
  closed : Bool

/-- The reals that round to a number. -/
def Interval.around (m : Magnitude) : Interval :=
  let scale := m.exponent - 2
  let up := Nat.pow 2 scale.toNat
  let value := 4 * m.significand
  let low := value - (if m.narrowBelow then 1 else 2)
  ⟨low * up, value * up, (value + 2) * up, Nat.pow 2 (-scale).toNat, m.significand % 2 == 0⟩

/-- Is `digits · 10^exponent` in the interval? -/
def Interval.holds (i : Interval) (d : Decimal) : Bool :=
  let lhs := d.digits * Nat.pow 10 d.exponent.toNat * i.denominator
  let unit := Nat.pow 10 (-d.exponent).toNat
  if i.closed then i.low * unit ≤ lhs && lhs ≤ i.high * unit
  else i.low * unit < lhs && lhs < i.high * unit

/-- The largest `e` with `10^e ≤ num / den`; `fuel` bounds the zeros after the point. -/
def decimalExponent (num den : Nat) : Nat → Int
  | 0 => 0
  | fuel + 1 =>
      if num < den then decimalExponent (num * 10) den fuel - 1
      else ((Nat.toDigits 10 (num / den)).length : Int) - 1

/-- The nearest decimal of this exponent that lies in the interval. -/
def Interval.candidate? (i : Interval) (exponent : Int) : Option Decimal :=
  let num := i.value * Nat.pow 10 (-exponent).toNat
  let den := i.denominator * Nat.pow 10 exponent.toNat
  let below : Decimal := ⟨num / den, exponent⟩
  let above : Decimal := ⟨num / den + 1, exponent⟩
  let twice := 2 * (num % den)
  match i.holds below, i.holds above with
  | true, true =>
      some (if twice < den then below
        else if den < twice then above
        else if below.digits % 2 = 0 then below else above)
  | true, false => some below
  | false, true => some above
  | false, false => none

/-- Take the zeros off the end of the digits; `fuel` bounds their number. -/
def Decimal.strip (d : Decimal) : Nat → Decimal
  | 0 => d
  | fuel + 1 =>
      if d.digits ≠ 0 ∧ d.digits % 10 = 0 then
        Decimal.strip ⟨d.digits / 10, d.exponent + 1⟩ fuel
      else d

/-- The shortest decimal of a finite nonzero number, its sign left aside. -/
def Decimal.shortest (bits : UInt64) : Decimal :=
  let i := Interval.around (Magnitude.ofBits bits)
  let top := decimalExponent i.value i.denominator 400
  let found := (List.range 17).findSome? fun n : Nat => i.candidate? (top - (n : Int))
  (found.getD ⟨i.value / i.denominator, 0⟩).strip 20

/-! ## §3. Written forms. -/

/-- Is the sign bit set? -/
def isNegative (bits : UInt64) : Bool := bits >>> 63 == 1

/-- Is the number zero, of either sign? -/
def isZero (bits : UInt64) : Bool := bits &&& 0x7FFFFFFFFFFFFFFF == 0

/-- The digits of a decimal, in a row. -/
def Decimal.text (d : Decimal) : List Char := Nat.toDigits 10 d.digits

/-- A positive decimal the way JSON numbers are written: with a point while the
point stands within sixteen digits or after at most four zeros, else with one digit
before the point and an exponent with its sign. -/
def Decimal.render (d : Decimal) : String :=
  let ds := d.text
  let point := (ds.length : Int) + d.exponent
  String.ofList <|
    if 0 ≤ d.exponent ∧ point ≤ 16 then
      ds ++ List.replicate d.exponent.toNat '0' ++ ['.', '0']
    else if 0 < point ∧ point ≤ 16 then
      ds.take point.toNat ++ '.' :: ds.drop point.toNat
    else if -5 < point ∧ point ≤ 0 then
      '0' :: '.' :: List.replicate (-point).toNat '0' ++ ds
    else
      let sign := if point < 1 then '-' else '+'
      let tail := 'e' :: sign :: (toString (point - 1).natAbs).toList
      match ds with
      | [c] => c :: tail
      | c :: rest => c :: '.' :: rest ++ tail
      | [] => tail

/-- A finite number the way JSON numbers are written. -/
def renderReal (bits : UInt64) : String :=
  (if isNegative bits then "-" else "")
    ++ (if isZero bits then "0.0" else (Decimal.shortest bits).render)

/-- A whole number that went through binary64, written without an exponent. -/
def renderWhole (n : UInt64) : String :=
  if n = 0 then "0"
  else
    let d := Decimal.shortest n.toFloat.toBits
    String.ofList (d.text ++ List.replicate d.exponent.toNat '0')

end ConnectionRelay.Json
