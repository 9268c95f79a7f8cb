/-
  ConnectionRelay.Cluster.Calendar
  ────────────────────────────────
  **DAYS AND DATES.**

  Days are counted from the beginning of 1970, and dates are those of the Gregorian
  calendar, carried on into the past and the future without an end.  A year of the
  count begins in March, so that a leap day is the last of its year; four hundred
  years make an era of `146097` days.
-/

namespace ConnectionRelay.Cluster.Calendar

/-- A date. -/
structure Date where
  year : Int
  month : Int
  day : Int
  deriving DecidableEq, Repr

/-- The days from the beginning of 1970 to a date. -/
def Date.toDays (d : Date) : Int :=
  let y := if d.month ≤ 2 then d.year - 1 else d.year
  let era := y.fdiv 400
  let yearOfEra := y - era * 400
  let dayOfYear := (153 * (d.month + (if d.month > 2 then -3 else 9)) + 2) / 5 + d.day - 1
  let dayOfEra := yearOfEra * 365 + yearOfEra / 4 - yearOfEra / 100 + dayOfYear
  era * 146097 + dayOfEra - 719468

/-- The date of a day. -/
def Date.ofDays (days : Int) : Date :=
  let z := days + 719468
  let era := z.fdiv 146097
  let dayOfEra := z - era * 146097
  let yearOfEra :=
    (dayOfEra - dayOfEra / 1460 + dayOfEra / 36524 - dayOfEra / 146096) / 365
  let dayOfYear := dayOfEra - (365 * yearOfEra + yearOfEra / 4 - yearOfEra / 100)
  let shifted := (5 * dayOfYear + 2) / 153
  let month := if shifted < 10 then shifted + 3 else shifted - 9
  let year := yearOfEra + era * 400 + (if month ≤ 2 then 1 else 0)
  ⟨year, month, dayOfYear - (153 * shifted + 2) / 5 + 1⟩

/-- The number of days of a month. -/
def daysInMonth (year month : Int) : Int :=
  let next : Date := if month = 12 then ⟨year + 1, 1, 1⟩ else ⟨year, month + 1, 1⟩
  next.toDays - (Date.mk year month 1).toDays

/-- Is there such a date?  The month is known to be one. -/
def Date.exists (d : Date) : Bool :=
  1 ≤ d.day && d.day ≤ daysInMonth d.year d.month

end ConnectionRelay.Cluster.Calendar
