/-
  ConnectionRelay.Proofs.Cluster.Calendar
  ───────────────────────────────────────
  **DAYS AND DATES GO BACK AND FORTH.**

  An era of four hundred years falls into centuries, these into spans of four years, and
  these into years; only the last part of each may have a day more or less than the others.
  So a day of an era is told by its century, its span, its year and its day of that year
  (`Place`).  Main statements:

    • `toDays_ofDays` — the date of a day is the date of that day only,
    • `exists_ofDays` — and there is such a date.
-/
import ConnectionRelay.Cluster.Calendar

namespace ConnectionRelay.Cluster.Calendar

/-! ## §1. Places in an era. -/

/-- A day of an era: of a year in a span of four years, which lies in a century.  Years
begin in March. -/
structure Place where
  century : Int
  span : Int
  year : Int
  day : Int

namespace Place

/-- There is such a day.  A year has a leap day at its end if it is the last one of its
span, unless the span is the last one of its century; but the last century has it. -/
structure InEra (p : Place) : Prop where
  century : 0 ≤ p.century ∧ p.century ≤ 3
  span : 0 ≤ p.span ∧ p.span ≤ 24
  year : 0 ≤ p.year ∧ p.year ≤ 3
  day : 0 ≤ p.day ∧ p.day ≤ 365
  leap : p.day = 365 → p.year = 3 ∧ (p.span = 24 → p.century = 3)

/-- The year of the era. -/
def yearOfEra (p : Place) : Int := 100 * p.century + 4 * p.span + p.year

/-- The first day of the year. -/
def start (p : Place) : Int := 36524 * p.century + 1461 * p.span + 365 * p.year

/-- The day of the era. -/
def dayOfEra (p : Place) : Int := p.start + p.day

variable {p : Place}

/-- Every day of an era has its place. -/
theorem exists_of_dayOfEra {n : Int} (h : 0 ≤ n ∧ n ≤ 146096) :
    ∃ p : Place, p.InEra ∧ p.dayOfEra = n := by
  -- the last part of each kind takes up what is left over
  obtain ⟨c, hc, hcentury⟩ : ∃ c, (0 ≤ c ∧ c ≤ 3)
      ∧ 36524 * c ≤ n ∧ (n < 36524 * c + 36524 ∨ c = 3) :=
    ⟨min (n / 36524) 3, by omega, by omega⟩
  obtain ⟨q, hq, hspan⟩ : ∃ q, (0 ≤ q ∧ q ≤ 24)
      ∧ 1461 * q ≤ n - 36524 * c ∧ n - 36524 * c < 1461 * q + 1461 :=
    ⟨(n - 36524 * c) / 1461, by omega, by omega⟩
  obtain ⟨r, hr, hyear⟩ : ∃ r, (0 ≤ r ∧ r ≤ 3)
      ∧ 365 * r ≤ n - 36524 * c - 1461 * q
      ∧ (n - 36524 * c - 1461 * q < 365 * r + 365 ∨ r = 3) :=
    ⟨min ((n - 36524 * c - 1461 * q) / 365) 3, by omega, by omega⟩
  refine ⟨⟨c, q, r, n - 36524 * c - 1461 * q - 365 * r⟩, ⟨hc, hq, hr, ?_, ?_⟩, ?_⟩
  · show 0 ≤ n - 36524 * c - 1461 * q - 365 * r ∧ n - 36524 * c - 1461 * q - 365 * r ≤ 365
    omega
  · show n - 36524 * c - 1461 * q - 365 * r = 365 → r = 3 ∧ (q = 24 → c = 3)
    omega
  · show 36524 * c + 1461 * q + 365 * r + (n - 36524 * c - 1461 * q - 365 * r) = n
    omega

/-- Where a year begins. -/
theorem InEra.start_eq (h : p.InEra) :
    365 * p.yearOfEra + p.yearOfEra / 4 - p.yearOfEra / 100 = p.start := by
  obtain ⟨hcentury, hspan, hyear, -, -⟩ := h
  unfold yearOfEra start
  omega

/-- The quotient that counts the centuries. -/
theorem century_eq {c n : Int} (hc : 0 ≤ c ∧ c ≤ 3) (hn : 36524 * c ≤ n ∧ n ≤ 36524 * c + 36523) :
    n / 36524 - n / 146096 = c := by
  omega

/-- The year of a day of the era, as it is computed from the day. -/
theorem InEra.yearOfEra_eq (h : p.InEra) :
    (p.dayOfEra - p.dayOfEra / 1460 + p.dayOfEra / 36524 - p.dayOfEra / 146096) / 365
      = p.yearOfEra := by
  obtain ⟨c, q, r, s⟩ := p
  obtain ⟨hcentury, hspan, hyear, hday, hleap⟩ := h
  simp only at hcentury hspan hyear hday hleap
  simp only [yearOfEra, dayOfEra, start]
  obtain ⟨n, hn⟩ : ∃ n, n = 36524 * c + 1461 * q + 365 * r + s := ⟨_, rfl⟩
  rw [← hn]
  -- the quotients count the leap days before the day, up to one
  obtain ⟨d, hd, hspans⟩ :
      ∃ d, (0 ≤ d ∧ d ≤ 1 ∧ (d = 1 → r = 3 ∧ 268 < s)) ∧ n / 1460 = 25 * c + q + d :=
    ⟨n / 1460 - 25 * c - q, by omega, by omega⟩
  have hcenturies : n / 36524 - n / 146096 = c := by
    -- only the last day of the era is not within the days that all centuries have
    have hlast : 1461 * q + 365 * r + s ≤ 36523 ∨ n = 146096 ∧ c = 3 := by omega
    rcases hlast with hwithin | ⟨rfl, rfl⟩
    · exact century_eq hcentury ⟨by omega, by omega⟩
    · rfl
  have hyears : n - n / 1460 + n / 36524 - n / 146096
      = 365 * (100 * c + 4 * q + r) + (s - d) := by omega
  rw [hyears]
  omega

theorem inEra_first {c q r : Int} (hc : 0 ≤ c ∧ c ≤ 3) (hq : 0 ≤ q ∧ q ≤ 24) (hr : 0 ≤ r ∧ r ≤ 3) :
    InEra ⟨c, q, r, 0⟩ :=
  ⟨hc, hq, hr, ⟨Int.le_refl 0, (by decide : (0 : Int) ≤ 365)⟩, nofun⟩

/-- After the last day of a year the next one begins, in this era or in the next one. -/
theorem InEra.exists_next (h : p.InEra) :
    ∃ (eras : Int) (next : Place), next.InEra
      ∧ eras * 400 + next.yearOfEra = p.yearOfEra + 1
      ∧ p.start + p.day + 1 ≤ eras * 146097 + next.start := by
  obtain ⟨c, q, r, s⟩ := p
  obtain ⟨hcentury, hspan, hyear, hday, hleap⟩ := h
  simp only at hcentury hspan hyear hday hleap
  have hzero : (0 : Int) ≤ 0 ∧ (0 : Int) ≤ 3 := by decide
  by_cases hr : r < 3
  · refine ⟨0, ⟨c, q, r + 1, 0⟩, inEra_first hcentury hspan (by omega), ?_, ?_⟩
    · dsimp only [yearOfEra]
      omega
    · dsimp only [start]
      omega
  by_cases hq : q < 24
  · refine ⟨0, ⟨c, q + 1, 0, 0⟩, inEra_first hcentury (by omega) hzero, ?_, ?_⟩
    · dsimp only [yearOfEra]
      omega
    · dsimp only [start]
      omega
  by_cases hc : c < 3
  · refine ⟨0, ⟨c + 1, 0, 0, 0⟩, inEra_first (by omega) (by decide) hzero, ?_, ?_⟩
    · dsimp only [yearOfEra]
      omega
    · dsimp only [start]
      omega
  · refine ⟨1, ⟨0, 0, 0, 0⟩, inEra_first hzero (by decide) hzero, ?_, ?_⟩
    · dsimp only [yearOfEra]
      omega
    · dsimp only [start]
      omega

end Place

/-! ## §2. Dates of years that begin in March. -/

/-- The year of a date, if years begin in March. -/
def Date.marchYear (d : Date) : Int := if d.month ≤ 2 then d.year - 1 else d.year

/-- The month of a date, counted from March on. -/
def Date.marchMonth (d : Date) : Int := d.month + (if d.month > 2 then -3 else 9)

theorem Date.toDays_eq {d : Date} {era : Int} {p : Place} (hp : p.InEra)
    (hyear : d.marchYear = era * 400 + p.yearOfEra) :
    d.toDays = era * 146097 + p.start + ((153 * d.marchMonth + 2) / 5 + d.day - 1) - 719468 := by
  have hstart := hp.start_eq
  have hbounds : 0 ≤ p.yearOfEra ∧ p.yearOfEra ≤ 399 := by
    obtain ⟨hcentury, hspan, hyear, -, -⟩ := hp
    unfold Place.yearOfEra
    omega
  have hera : d.marchYear.fdiv 400 = era := by
    rw [Int.fdiv_eq_ediv_of_nonneg _ (by decide)]
    omega
  have hyearOfEra : d.marchYear - era * 400 = p.yearOfEra := by omega
  unfold Date.toDays
  show d.marchYear.fdiv 400 * 146097 + ((d.marchYear - d.marchYear.fdiv 400 * 400) * 365
    + (d.marchYear - d.marchYear.fdiv 400 * 400) / 4
    - (d.marchYear - d.marchYear.fdiv 400 * 400) / 100
    + ((153 * d.marchMonth + 2) / 5 + d.day - 1)) - 719468 = _
  rw [hera, hyearOfEra]
  omega

/-- A date falls on a day of an era. -/
structure Date.On (d : Date) (era : Int) (p : Place) : Prop where
  inEra : p.InEra
  year : d.marchYear = era * 400 + p.yearOfEra
  month : d.marchMonth = (5 * p.day + 2) / 153
  day : d.day = p.day - (153 * ((5 * p.day + 2) / 153) + 2) / 5 + 1
  months : 1 ≤ d.month ∧ d.month ≤ 12

/-- The date of a day falls on its place. -/
theorem exists_place (days : Int) :
    ∃ (era : Int) (p : Place), (Date.ofDays days).On era p
      ∧ days = era * 146097 + p.dayOfEra - 719468 := by
  have hera : (days + 719468).fdiv 146097 = (days + 719468) / 146097 :=
    Int.fdiv_eq_ediv_of_nonneg _ (by decide)
  obtain ⟨p, hp, hday⟩ := Place.exists_of_dayOfEra
    (n := days + 719468 - (days + 719468) / 146097 * 146097) (by omega)
  have hdayOfYear : p.dayOfEra
      - (365 * p.yearOfEra + p.yearOfEra / 4 - p.yearOfEra / 100) = p.day := by
    rw [hp.start_eq, Place.dayOfEra]
    omega
  have hdate : Date.ofDays days =
      ⟨p.yearOfEra + (days + 719468) / 146097 * 400
          + (if (if (5 * p.day + 2) / 153 < 10 then (5 * p.day + 2) / 153 + 3
              else (5 * p.day + 2) / 153 - 9) ≤ 2 then 1 else 0),
        if (5 * p.day + 2) / 153 < 10 then (5 * p.day + 2) / 153 + 3
          else (5 * p.day + 2) / 153 - 9,
        p.day - (153 * ((5 * p.day + 2) / 153) + 2) / 5 + 1⟩ := by
    unfold Date.ofDays
    simp only [hera, ← hday, hp.yearOfEra_eq, hdayOfYear]
  have hbounds := hp.day
  refine ⟨(days + 719468) / 146097, p, ⟨hp, ?_, ?_, ?_, ?_⟩, by omega⟩
  · rw [hdate]
    simp only [Date.marchYear]
    split <;> split <;> omega
  · rw [hdate]
    simp only [Date.marchMonth]
    split <;> split <;> omega
  · rw [hdate]
  · rw [hdate]
    simp only
    split <;> omega

/-- **The date of a day is the date of that day only.** -/
theorem toDays_ofDays (days : Int) : (Date.ofDays days).toDays = days := by
  obtain ⟨era, p, hon, hdays⟩ := exists_place days
  rw [Date.toDays_eq hon.inEra hon.year, hon.month, hon.day, hdays, Place.dayOfEra]
  omega

/-- The months of a year and the days of a month. -/
theorem bounds_ofDays (days : Int) :
    (1 ≤ (Date.ofDays days).month ∧ (Date.ofDays days).month ≤ 12)
      ∧ 1 ≤ (Date.ofDays days).day ∧ (Date.ofDays days).day ≤ 31 := by
  obtain ⟨era, p, hon, -⟩ := exists_place days
  have hday := hon.day
  have hbounds := hon.inEra.day
  exact ⟨hon.months, by omega, by omega⟩

/-! ## §3. The days of a month. -/

namespace Date.On

variable {d : Date} {era : Int} {p : Place}

/-- The first day of the month. -/
theorem toDays_first (h : d.On era p) : (Date.mk d.year d.month 1).toDays
    = era * 146097 + p.start + (153 * ((5 * p.day + 2) / 153) + 2) / 5 - 719468 := by
  have hmonth : (Date.mk d.year d.month 1).marchMonth = (5 * p.day + 2) / 153 := h.month
  rw [@Date.toDays_eq ⟨d.year, d.month, 1⟩ era p h.inEra h.year, hmonth]
  simp only
  omega

/-- A day of February comes before the first month of the next year. -/
theorem day_le_of_february (h : d.On era p) (hfebruary : d.month = 2) :
    d.day ≤ daysInMonth d.year d.month := by
  have hyear : d.year - 1 = era * 400 + p.yearOfEra := by
    rw [← h.year, marchYear, if_pos (by omega)]
  have hmonth : (5 * p.day + 2) / 153 = 11 := by
    rw [← h.month, marchMonth, if_neg (by omega), hfebruary]
    rfl
  have hday := h.day
  obtain ⟨eras, next, hnext, hyears, hstart⟩ := h.inEra.exists_next
  have hnextYear : (Date.mk d.year 3 1).marchYear = (era + eras) * 400 + next.yearOfEra := by
    show d.year = _
    omega
  have hmarch : (Date.mk d.year 3 1).toDays = (era + eras) * 146097 + next.start - 719468 := by
    rw [Date.toDays_eq hnext hnextYear]
    show (era + eras) * 146097 + next.start + ((153 * 0 + 2) / 5 + 1 - 1) - 719468 = _
    omega
  unfold daysInMonth
  rw [h.toDays_first, hfebruary, if_neg (by decide)]
  show d.day ≤ (Date.mk d.year 3 1).toDays - _
  omega

/-- A day of another month comes before the next month of the same year. -/
theorem day_le_of_not_february (h : d.On era p) (hfebruary : d.month ≠ 2) :
    d.day ≤ daysInMonth d.year d.month := by
  obtain ⟨hlow, hhigh⟩ := h.months
  have hyear := h.year
  have hmonth := h.month
  simp only [marchYear, marchMonth] at hyear hmonth
  obtain ⟨next, hnext, hnextYear, hnextMonth, hnextDay⟩ : ∃ next : Date,
      (if d.month = 12 then ⟨d.year + 1, 1, 1⟩ else ⟨d.year, d.month + 1, 1⟩) = next
        ∧ next.marchYear = era * 400 + p.yearOfEra
        ∧ next.marchMonth = (5 * p.day + 2) / 153 + 1 ∧ next.day = 1 := by
    by_cases hdecember : d.month = 12
    · refine ⟨⟨d.year + 1, 1, 1⟩, if_pos hdecember, ?_, ?_, rfl⟩
      · rw [if_neg (by omega)] at hyear
        show d.year + 1 - 1 = _
        omega
      · rw [if_pos (by omega)] at hmonth
        show (1 : Int) + 9 = _
        omega
    · refine ⟨⟨d.year, d.month + 1, 1⟩, if_neg hdecember, ?_, ?_, rfl⟩
      · simp only [marchYear]
        split <;> split at hyear <;> omega
      · simp only [marchMonth]
        split <;> split at hmonth <;> omega
  have hday := h.day
  unfold daysInMonth
  rw [h.toDays_first, hnext]
  show d.day ≤ next.toDays - _
  rw [Date.toDays_eq h.inEra hnextYear, hnextMonth, hnextDay]
  omega

end Date.On

/-- **There is such a date** as that of a day. -/
theorem exists_ofDays (days : Int) : (Date.ofDays days).exists = true := by
  obtain ⟨era, p, hon, -⟩ := exists_place days
  have hlast : (Date.ofDays days).day
      ≤ daysInMonth (Date.ofDays days).year (Date.ofDays days).month := by
    by_cases hfebruary : (Date.ofDays days).month = 2
    · exact hon.day_le_of_february hfebruary
    · exact hon.day_le_of_not_february hfebruary
  simp [Date.exists, (bounds_ofDays days).2.1, hlast]

end ConnectionRelay.Cluster.Calendar
