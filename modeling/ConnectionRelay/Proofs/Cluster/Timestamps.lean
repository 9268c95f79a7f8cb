/-
  ConnectionRelay.Proofs.Cluster.Timestamps
  ─────────────────────────────────────────
  **TIMES ARE READ BACK WITHOUT THEIR FRACTIONS.**

  Every time that can be read has a date, so its text can be read again.  The text has no
  fraction; but it tells a leap second from the second after it.  Main statements:

    • `parse_render` — the text of a time reads as the time without its fraction,
    • `valid_of_parse` — every time that was read has such a text.
-/
import ConnectionRelay.Cluster.Timestamp
import ConnectionRelay.Proofs.Cluster.Calendar
import ConnectionRelay.Proofs.Wire.Gives

namespace ConnectionRelay.Cluster

open Calendar

namespace Timestamp

/-! ## §1. Digits. -/

/-- Digits, and at least one. -/
structure Digits (ds : List Char) : Prop where
  all : ∀ c ∈ ds, c.isDigit = true
  some : ds ≠ []

theorem ofDigits_eq (ds : List Char) : ofDigits ds = Nat.ofDigitChars 10 ds 0 := by
  rw [Nat.ofDigitChars_eq_foldl, ofDigits]
  congr 1
  funext n c
  rw [Nat.mul_comm]
  rfl

theorem padded_eq (width : Nat) (n : Int) :
    padded width n = List.replicate (width - (Nat.toDigits 10 n.natAbs).length) '0'
      ++ Nat.toDigits 10 n.natAbs := by
  simp [padded]

theorem digits_padded (width : Nat) (n : Int) : Digits (padded width n) := by
  rw [padded_eq]
  refine ⟨fun c hc => ?_, fun hnil => ?_⟩
  · rcases List.mem_append.1 hc with hc | hc
    · rw [List.eq_of_mem_replicate hc]
      rfl
    · exact Nat.isDigit_of_mem_toDigits (by decide) (by decide) hc
  · exact Nat.toDigits_ne_nil (List.append_eq_nil_iff.1 hnil).2

/-- The number of a padded text. -/
theorem ofDigits_padded (width : Nat) (n : Int) : ofDigits (padded width n) = n.natAbs := by
  rw [ofDigits_eq, padded_eq, Nat.ofDigitChars_append, Nat.ofDigitChars_replicate_zero,
    Nat.mul_zero, Nat.ofDigitChars_toDigits (by decide) (by decide)]

theorem length_padded {width : Nat} {n : Int} (hwidth : 0 < width)
    (h : n.natAbs < Nat.pow 10 width) : (padded width n).length = width := by
  have hlength := (Nat.length_toDigits_le_iff (b := 10) (by decide) hwidth).2 h
  rw [padded_eq, List.length_append, List.length_replicate]
  omega

/-- Digits come to less than the power of their number. -/
theorem ofDigits_lt {ds : List Char} (h : ∀ c ∈ ds, c.isDigit = true) :
    ofDigits ds < Nat.pow 10 ds.length := by
  have hfrom (n : Nat) :
      ds.foldl (fun n c => n * 10 + (c.toNat - 0x30)) n < (n + 1) * Nat.pow 10 ds.length := by
    induction ds generalizing n with
    | nil => exact Nat.lt_of_lt_of_eq n.lt_add_one (n + 1).mul_one.symm
    | cons c ds ih =>
        obtain ⟨-, hhigh⟩ := Char.isDigit_iff_toNat.1 (h c List.mem_cons_self)
        have hdigit : c.toNat - 0x30 ≤ 9 := Nat.sub_le_sub_right hhigh 0x30
        have hrest := ih (fun c hc => h c (List.mem_cons_of_mem _ hc)) (n * 10 + (c.toNat - 0x30))
        have hstep : (n * 10 + (c.toNat - 0x30) + 1) * Nat.pow 10 ds.length
            ≤ (n * 10 + 10) * Nat.pow 10 ds.length :=
          Nat.mul_le_mul_right _ (by omega)
        calc _ < _ := hrest
          _ ≤ (n * 10 + 10) * Nat.pow 10 ds.length := hstep
          _ = (n + 1) * (10 * Nat.pow 10 ds.length) := by
            rw [← Nat.mul_assoc, show n * 10 + 10 = (n + 1) * 10 by omega]
          _ = (n + 1) * Nat.pow 10 (ds.length + 1) := by
            rw [Nat.mul_comm 10]
            rfl
  have hzero := hfrom 0
  rwa [Nat.zero_add, Nat.one_mul] at hzero

theorem isBlank_of_isDigit {c : Char} (h : c.isDigit = true) : Text.isBlank c = false := by
  obtain ⟨hlow, hhigh⟩ := Char.isDigit_iff_toNat.1 h
  have hlow' : 48 ≤ c.toNat := hlow
  have hhigh' : c.toNat ≤ 57 := hhigh
  simp [Text.isBlank]
  omega

/-! ## §2. Reading numbers. -/

variable {ds rest : List Char}

theorem Digits.skipBlanks_append (h : Digits ds) : skipBlanks (ds ++ rest) = ds ++ rest := by
  obtain ⟨c, ds', rfl⟩ := List.exists_cons_of_ne_nil h.some
  rw [skipBlanks, List.cons_append, List.dropWhile_cons_of_neg]
  simp [isBlank_of_isDigit (h.all c List.mem_cons_self)]

theorem Digits.numberOf_append (h : Digits ds) {digits : List Char → List Char}
    (hdigits : digits (ds ++ rest) = ds) :
    numberOf digits (ds ++ rest) = .ok (ofDigits ds, rest) := by
  have hds : ds.isEmpty = false := by simpa using h.some
  have hall : (ds ++ rest).isEmpty = false := by simp [h.some]
  simp [numberOf, hdigits, hds, hall]

/-- A number of full width is read. -/
theorem Digits.number_append (h : Digits ds) (rest : List Char) :
    number ds.length (ds ++ rest) = .ok (ofDigits ds, rest) := by
  refine h.numberOf_append ?_
  rw [List.take_left]
  simpa using @List.takeWhile_append_of_pos _ Char.isDigit ds [] h.all

/-- A number of any length is read up to what is no digit. -/
theorem Digits.longNumber_append (h : Digits ds) {c : Char} (hc : c.isDigit = false)
    (rest : List Char) :
    longNumber (ds ++ c :: rest) = .ok (ofDigits ds, c :: rest) := by
  refine h.numberOf_append ?_
  rw [List.takeWhile_append_of_pos h.all, List.takeWhile_cons_of_neg (by simp [hc]),
    List.append_nil]

/-- A number of two digits is read between its bounds. -/
theorem numberIn_padded {low high : Nat} {n : Int} (hlow : low ≤ n) (hhigh : n ≤ high)
    (h : high < 100) : numberIn low high (padded 2 n ++ rest) = .ok (n, rest) := by
  have hdigits := digits_padded 2 n
  have hlength : (padded 2 n).length = 2 :=
    length_padded (by decide) (show n.natAbs < 100 by omega)
  have hnumber := hdigits.number_append rest
  rw [hlength, ofDigits_padded] at hnumber
  rw [numberIn, hdigits.skipBlanks_append, hnumber]
  have hbounds : low ≤ n.natAbs ∧ n.natAbs ≤ high := by omega
  have hn : (n.natAbs : Int) = n := by omega
  simp [bind, Except.bind, hbounds, hn]

/-- A year is read, whether it has a sign or not. -/
theorem readYear_yearText {year : Int} (hlow : yearRange.1 ≤ year) (hhigh : year ≤ yearRange.2) :
    readYear (yearText year ++ '-' :: rest) = .ok (year, '-' :: rest) := by
  have hlow' : -262143 ≤ year := hlow
  have hhigh' : year ≤ 262142 := hhigh
  have hrange : -2147483648 ≤ year ∧ year < 2147483648 := by omega
  have hdigits := digits_padded 4 year
  have hlong := hdigits.longNumber_append (show '-'.isDigit = false by decide) rest
  rw [ofDigits_padded] at hlong
  unfold yearText
  split
  · next hfour =>
      -- four digits, of which the first one is no sign
      have hlength : (padded 4 year).length = 4 :=
        length_padded (by decide) (show year.natAbs < 10000 by omega)
      have hnumber := hdigits.number_append ('-' :: rest)
      rw [hlength, ofDigits_padded] at hnumber
      have hyear : (year.natAbs : Int) = year := by omega
      rw [readYear, hdigits.skipBlanks_append]
      obtain ⟨c, ds', hds⟩ := List.exists_cons_of_ne_nil hdigits.some
      have hc := hdigits.all c (hds ▸ List.mem_cons_self)
      rw [hds, List.cons_append] at hnumber ⊢
      split
      · next heq => cases heq; cases hc
      · next heq => cases heq; cases hc
      · simp [hnumber, Except.map, bind, Except.bind, hyear, hrange]
  · by_cases hneg : year < 0
    · have hyear : -(year.natAbs : Int) = year := by omega
      generalize year.natAbs = n at hlong hyear
      have hskip (cs : List Char) : skipBlanks ('-' :: cs) = '-' :: cs := rfl
      simp [hneg, readYear, hskip, hlong, Except.map, bind, Except.bind, hyear, hrange]
    · have hyear : (year.natAbs : Int) = year := by omega
      have hskip (cs : List Char) : skipBlanks ('+' :: cs) = '+' :: cs := rfl
      simp [hneg, readYear, hskip, hlong, Except.map, bind, Except.bind, hyear, hrange]

theorem readSign_self (sign : Char) (hsign : Text.isBlank sign = false) :
    readSign sign (sign :: rest) = .ok rest := by
  rw [readSign, skipBlanks, List.dropWhile_cons_of_neg (by simp [hsign])]
  exact if_pos rfl

/-! ## §3. Whole times. -/

/-- A time without its fraction; a leap second stays one. -/
def whole (t : Timestamp) : Timestamp :=
  ⟨t.seconds, if Nat.pow 10 9 ≤ t.nanoseconds then Nat.pow 10 9 else 0⟩

/-- The time has a date, and a leap second stands at the end of a minute. -/
structure Valid (t : Timestamp) : Prop where
  year : yearRange.1 ≤ (Date.ofDays (t.seconds.fdiv 86400)).year
    ∧ (Date.ofDays (t.seconds.fdiv 86400)).year ≤ yearRange.2
  leap : Nat.pow 10 9 ≤ t.nanoseconds → t.seconds % 60 = 59

theorem whole_whole (t : Timestamp) : t.whole.whole = t.whole := by
  unfold whole
  split
  · simp
  · simp

theorem Valid.whole {t : Timestamp} (h : t.Valid) : t.whole.Valid := by
  refine ⟨h.year, fun hleap => h.leap ?_⟩
  unfold Timestamp.whole at hleap
  split at hleap
  · assumption
  · exact absurd hleap (show ¬ Nat.pow 10 9 ≤ 0 by decide)

/-- The fraction is not written. -/
theorem render_whole (t : Timestamp) : t.whole.render = t.render := by
  by_cases h : Nat.pow 10 9 ≤ t.nanoseconds
  · simp [render, Timestamp.whole, h]
  · simp [render, Timestamp.whole, h]

/-- A time is put together of its date and of hours, minutes and seconds. -/
theorem ofParts_ofDays {days inDay hour minute second : Int} {isLeap : Bool}
    (hyear : yearRange.1 ≤ (Date.ofDays days).year ∧ (Date.ofDays days).year ≤ yearRange.2)
    (hinDay : 0 ≤ inDay ∧ inDay < 86400)
    (hsecond : hour * 3600 + minute * 60 + (if second = 60 then 59 else second) = inDay)
    (hleap : second = 60 ↔ isLeap = true) :
    ofParts (Date.ofDays days) hour minute second 0 0
      = .ok ⟨days * 86400 + inDay, if isLeap then Nat.pow 10 9 else 0⟩ := by
  obtain ⟨hlow, hhigh⟩ := hyear
  have hseconds : (Date.ofDays days).toDays * 86400
      + (hour * 3600 + minute * 60 + (if second = 60 then 59 else second)) - 0
      = days * 86400 + inDay := by
    rw [hsecond, toDays_ofDays]
    omega
  have hdays : (days * 86400 + inDay).fdiv 86400 = days := by
    rw [Int.fdiv_eq_ediv_of_nonneg _ (by decide)]
    omega
  have hexists : (Date.ofDays days).exists = true := exists_ofDays days
  have hinRange :
      ¬ ((Date.ofDays days).year < yearRange.1 ∨ yearRange.2 < (Date.ofDays days).year) := by
    omega
  unfold ofParts
  simp only [hseconds, hdays, hexists, Nat.zero_add]
  simp only [hleap]
  rw [if_neg (by simpa using hinRange), if_neg (by decide), if_neg (by simpa using hinRange)]

/-- **A time is read back without its fraction.** -/
theorem parse_render {t : Timestamp} (h : t.Valid) : parse t.render = .ok t.whole := by
  obtain ⟨hlow, hhigh⟩ := h.year
  obtain ⟨⟨hmonth, hmonth'⟩, hday, hday'⟩ := bounds_ofDays (t.seconds.fdiv 86400)
  have hdays : t.seconds.fdiv 86400 = t.seconds / 86400 :=
    Int.fdiv_eq_ediv_of_nonneg _ (by decide)
  obtain ⟨inDay, hinDay⟩ : ∃ inDay, inDay = t.seconds - t.seconds.fdiv 86400 * 86400 := ⟨_, rfl⟩
  have hbounds : 0 ≤ inDay ∧ inDay < 86400 := by omega
  have htime : t.seconds.fdiv 86400 * 86400 + inDay = t.seconds := by omega
  -- the second of a leap second is the sixtieth one
  obtain ⟨second, hsecond, hrange, hleap, htotal⟩ : ∃ second,
      second = inDay % 60 + (if Nat.pow 10 9 ≤ t.nanoseconds then 1 else 0)
        ∧ (0 ≤ second ∧ second ≤ 60) ∧ (second = 60 ↔ decide (Nat.pow 10 9 ≤ t.nanoseconds) = true)
        ∧ inDay / 3600 * 3600 + inDay / 60 % 60 * 60 + (if second = 60 then 59 else second)
          = inDay := by
    by_cases hn : Nat.pow 10 9 ≤ t.nanoseconds
    · have hlast := h.leap hn
      exact ⟨60, by rw [if_pos hn]; omega, by omega, by simp [hn], by rw [if_pos rfl]; omega⟩
    · exact ⟨inDay % 60, by rw [if_neg hn]; omega, by omega, by simp [hn]; omega,
        by rw [if_neg (by omega)]; omega⟩
  have hparts := ofParts_ofDays h.year hbounds htotal hleap
  unfold render parse
  simp only [String.toList_ofList, List.append_assoc, List.cons_append]
  rw [← hinDay, ← hsecond, readYear_yearText hlow hhigh]
  have hhour : numberIn 0 23 (padded 2 (inDay / 3600) ++ ':' :: (padded 2 (inDay / 60 % 60)
      ++ ':' :: (padded 2 second ++ ['Z'])))
      = .ok (inDay / 3600,
          ':' :: (padded 2 (inDay / 60 % 60) ++ ':' :: (padded 2 second ++ ['Z']))) :=
    numberIn_padded (by omega) (by omega) (by decide)
  have hminute : numberIn 0 59 (padded 2 (inDay / 60 % 60) ++ ':' :: (padded 2 second ++ ['Z']))
      = .ok (inDay / 60 % 60, ':' :: (padded 2 second ++ ['Z'])) :=
    numberIn_padded (by omega) (by omega) (by decide)
  have hseconds : numberIn 0 60 (padded 2 second ++ ['Z']) = .ok (second, ['Z']) :=
    numberIn_padded (by omega) (by omega) (by decide)
  have hfraction : readFraction ['Z'] = .ok (0, ['Z']) := rfl
  have hoffset : readOffset (skipBlanks ['Z']) = .ok (0, []) := rfl
  have hrest : (skipBlanks []).isEmpty = true := rfl
  have hjoint (cs : List Char) : readJoint ('T' :: cs) = .ok cs := rfl
  simp only [bind, Except.bind, readSign_self '-' rfl, readSign_self ':' rfl, hjoint,
    numberIn_padded hmonth hmonth' (by decide), numberIn_padded hday hday' (by decide),
    hhour, hminute, hseconds, hfraction, hoffset, hrest, Bool.not_true, Bool.false_eq_true,
    if_false]
  rw [hparts, htime, whole]
  simp only [decide_eq_true_eq]

/-! ## §4. What is read. -/

theorem readShift_eq_ok {factor offset : Int} (hfactor : factor = 1 ∨ factor = -1)
    {cs : List Char} (h : readShift factor cs = .ok (offset, rest)) : offset % 60 = 0 := by
  obtain ⟨⟨hours, cs'⟩, -, hgo⟩ := Wire.bind_eq_ok.1 h
  obtain ⟨⟨minutes, cs''⟩, -, hsame⟩ := Wire.bind_eq_ok.1 hgo
  cases hsame
  rcases hfactor with rfl | rfl
  · omega
  · omega

/-- Offsets are whole minutes. -/
theorem readOffset_eq_ok {cs : List Char} {offset : Int} (h : readOffset cs = .ok (offset, rest)) :
    offset % 60 = 0 := by
  unfold readOffset at h
  split at h
  · cases h
    rfl
  · cases cs with
    | nil => cases h
    | cons c cs =>
        simp only at h
        split at h
        · cases h
          rfl
        · split at h
          · exact readShift_eq_ok (.inl rfl) h
          · split at h
            · exact readShift_eq_ok (.inr rfl) h
            · cases h

/-- A number of bounded width is less than the power of its width, and as many characters
are gone. -/
theorem number_eq_ok {width n : Nat} {cs : List Char} (h : number width cs = .ok (n, rest)) :
    cs.length - rest.length ≤ width ∧ n < Nat.pow 10 (cs.length - rest.length) := by
  unfold number numberOf at h
  simp only at h
  split at h
  · cases h
  · split at h
    · cases h
    · cases h
      have hprefix := List.takeWhile_prefix (l := cs.take width) Char.isDigit
      have hwidth := hprefix.length_le
      rw [List.length_take] at hwidth
      have hlength : cs.length - (cs.drop ((cs.take width).takeWhile Char.isDigit).length).length
          = ((cs.take width).takeWhile Char.isDigit).length := by
        rw [List.length_drop]
        omega
      rw [hlength]
      exact ⟨by omega, ofDigits_lt (List.all_eq_true.1 List.all_takeWhile)⟩

/-- Fractions are less than a second. -/
theorem readFraction_eq_ok {cs : List Char} {nanoseconds : Nat}
    (h : readFraction cs = .ok (nanoseconds, rest)) : nanoseconds < Nat.pow 10 9 := by
  unfold readFraction at h
  split at h
  · next cs =>
      obtain ⟨⟨n, rest'⟩, hnumber, hsame⟩ := Wire.bind_eq_ok.1 h
      cases hsame
      obtain ⟨hwidth, hn⟩ := number_eq_ok hnumber
      show n * Nat.pow 10 (9 - (cs.length - rest'.length)) < Nat.pow 10 9
      generalize cs.length - rest'.length = k at hwidth hn
      calc n * Nat.pow 10 (9 - k) < Nat.pow 10 k * Nat.pow 10 (9 - k) :=
            Nat.mul_lt_mul_of_pos_right hn (Nat.pow_pos (by decide))
        _ = Nat.pow 10 (k + (9 - k)) := (Nat.pow_add 10 k (9 - k)).symm
        _ = Nat.pow 10 9 := by rw [Nat.add_sub_cancel' hwidth]
  · cases h
    decide

theorem ite_error_eq_ok {α : Type} {c : Prop} [Decidable c] {flaw : Flaw} {x : Except Flaw α}
    {a : α} : (if c then .error flaw else x) = .ok a ↔ ¬ c ∧ x = .ok a := by
  by_cases hc : c
  · simp [hc]
  · simp [hc]

/-- What is put together of its parts has a date. -/
theorem valid_of_ofParts {date : Date} {hour minute second offset : Int} {nanoseconds : Nat}
    {t : Timestamp} (hoffset : offset % 60 = 0) (hnanoseconds : nanoseconds < Nat.pow 10 9)
    (h : ofParts date hour minute second nanoseconds offset = .ok t) : t.Valid := by
  obtain ⟨-, h⟩ := ite_error_eq_ok.1 h
  obtain ⟨-, h⟩ := ite_error_eq_ok.1 h
  obtain ⟨hyear, h⟩ := ite_error_eq_ok.1 h
  obtain ⟨hlow, hhigh⟩ := not_or.1 hyear
  cases h
  refine ⟨⟨Int.not_lt.1 hlow, Int.not_lt.1 hhigh⟩, fun hleap => ?_⟩
  -- without a leap second there are too few nanoseconds
  have hsecond : second = 60 := Decidable.byContradiction fun hne => by
    simp only [hne, if_false, Nat.add_zero] at hleap
    exact absurd hleap (Nat.not_le_of_lt hnanoseconds)
  simp only [hsecond, if_true]
  omega

/-- **Every time that is read has a date.** -/
theorem valid_of_parse {s : String} {t : Timestamp} (h : parse s = .ok t) : t.Valid := by
  simp only [parse, Wire.bind_eq_ok] at h
  obtain ⟨_, -, _, -, _, -, _, -, _, -, _, -, _, -, _, -, _, -, _, -, _, -, ⟨nanoseconds, _⟩,
    hfraction, ⟨offset, _⟩, hoffset, h⟩ := h
  obtain ⟨-, h⟩ := ite_error_eq_ok.1 h
  exact valid_of_ofParts (readOffset_eq_ok hoffset) (readFraction_eq_ok hfraction) h

end Timestamp

end ConnectionRelay.Cluster
