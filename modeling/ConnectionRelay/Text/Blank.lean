/-
  ConnectionRelay.Text.Blank
  ──────────────────────────
  **WHITE SPACE AT THE ENDS OF A TEXT.**

  `isBlank` is the Unicode property White_Space (twenty-five characters, the
  no-break spaces and the ideographic space among them; the zero-width space and
  the byte order mark are not).  `trim` takes blanks off both ends of a list of
  characters and leaves those inside alone.  Main statements: what `trim` leaves
  neither begins nor ends with a blank, and it leaves such a text as it is.
-/

namespace ConnectionRelay.Text

/-! ## §1. The character class. -/

/-- Unicode White_Space. -/
def isBlank (c : Char) : Bool :=
  let n := c.toNat
  (0x9 ≤ n && n ≤ 0xD) || n == 0x20 || n == 0x85 || n == 0xA0 || n == 0x1680
    || (0x2000 ≤ n && n ≤ 0x200A) || n == 0x2028 || n == 0x2029 || n == 0x202F
    || n == 0x205F || n == 0x3000

/-! ## §2. Trimming. -/

/-- Drop the blanks at the end. -/
def trimRight (cs : List Char) : List Char :=
  (cs.reverse.dropWhile isBlank).reverse

/-- Drop the blanks at both ends. -/
def trim (cs : List Char) : List Char :=
  trimRight (cs.dropWhile isBlank)

theorem trimRight_of_last {cs : List Char} (h : ∀ c ∈ cs.getLast?, isBlank c = false) :
    trimRight cs = cs := by
  unfold trimRight
  cases hr : cs.reverse with
  | nil => simpa using hr.symm
  | cons c rest =>
      have hlast : cs.getLast? = some c := by
        rw [← List.head?_reverse, hr]; rfl
      have hc := h c (by simp [hlast])
      rw [List.dropWhile_cons, hc]
      simp [← hr]

/-- A text with no blank at either end is left as it is. -/
theorem trim_of_ends {cs : List Char} (hhead : ∀ c ∈ cs.head?, isBlank c = false)
    (hlast : ∀ c ∈ cs.getLast?, isBlank c = false) : trim cs = cs := by
  unfold trim
  cases cs with
  | nil => rfl
  | cons c rest =>
      have hc := hhead c (by simp)
      rw [List.dropWhile_cons, hc]
      exact trimRight_of_last hlast

/-! ## §3. What trimming takes off. -/

/-- Only blanks. -/
def AllBlank (cs : List Char) : Prop := ∀ c ∈ cs, isBlank c = true

theorem AllBlank.dropWhile_append {bs : List Char} (h : AllBlank bs) (cs : List Char) :
    (bs ++ cs).dropWhile isBlank = cs.dropWhile isBlank :=
  List.dropWhile_append_of_pos h

theorem AllBlank.dropWhile {bs : List Char} (h : AllBlank bs) : bs.dropWhile isBlank = [] := by
  rw [← List.append_nil bs, h.dropWhile_append]
  rfl

theorem allBlank_takeWhile (cs : List Char) : AllBlank (cs.takeWhile isBlank) :=
  fun c hc => List.all_eq_true.1 List.all_takeWhile c hc

theorem trimRight_append_blank (cs : List Char) {bs : List Char} (h : AllBlank bs) :
    trimRight (cs ++ bs) = trimRight cs := by
  have hreverse : AllBlank bs.reverse := fun c hc => h c (List.mem_reverse.1 hc)
  unfold trimRight
  rw [List.reverse_append, hreverse.dropWhile_append]

theorem exists_trimRight (cs : List Char) : ∃ bs, AllBlank bs ∧ cs = trimRight cs ++ bs := by
  refine ⟨(cs.reverse.takeWhile isBlank).reverse,
    fun c hc => allBlank_takeWhile _ c (List.mem_reverse.1 hc), ?_⟩
  unfold trimRight
  rw [← List.reverse_append, List.takeWhile_append_dropWhile, List.reverse_reverse]

/-- A text is what `trim` leaves of it, with blanks before and behind. -/
theorem exists_padding (cs : List Char) :
    ∃ left right, AllBlank left ∧ AllBlank right ∧ cs = left ++ trim cs ++ right := by
  obtain ⟨right, hright, hrest⟩ := exists_trimRight (cs.dropWhile isBlank)
  refine ⟨cs.takeWhile isBlank, right, allBlank_takeWhile cs, hright, ?_⟩
  rw [List.append_assoc, trim, ← hrest, List.takeWhile_append_dropWhile]

/-- Blanks around a text are taken off it. -/
theorem trim_padded {left right : List Char} (hleft : AllBlank left) (hright : AllBlank right)
    (cs : List Char) : trim (left ++ cs ++ right) = trim cs := by
  unfold trim
  rw [List.append_assoc, hleft.dropWhile_append, List.dropWhile_append]
  split
  · next hempty => rw [List.isEmpty_iff.1 hempty, hright.dropWhile]
  · exact trimRight_append_blank _ hright

/-- Nothing is left of blanks alone. -/
theorem trim_eq_nil_iff {cs : List Char} : trim cs = [] ↔ AllBlank cs := by
  constructor
  · intro h c hc
    obtain ⟨left, right, hleft, hright, hcs⟩ := exists_padding cs
    rw [h, List.append_nil] at hcs
    rw [hcs] at hc
    rcases List.mem_append.1 hc with hc | hc
    · exact hleft c hc
    · exact hright c hc
  · intro h
    unfold trim
    rw [h.dropWhile]
    rfl

/-- What is trimmed begins with no blank. -/
theorem isBlank_head_trim (cs : List Char) : ∀ c ∈ (trim cs).head?, isBlank c = false := by
  intro c hc
  obtain ⟨right, -, hrest⟩ := exists_trimRight (cs.dropWhile isBlank)
  have hhead : (cs.dropWhile isBlank).head? = some c := by
    rw [hrest, List.head?_append, ← trim, Option.mem_def.1 hc]
    rfl
  have hnot := List.head?_dropWhile_not isBlank cs
  rw [hhead] at hnot
  exact hnot

/-- What is trimmed ends with no blank. -/
theorem isBlank_last_trim (cs : List Char) : ∀ c ∈ (trim cs).getLast?, isBlank c = false := by
  intro c hc
  unfold trim trimRight at hc
  rw [List.getLast?_reverse] at hc
  have hnot := List.head?_dropWhile_not isBlank (cs.dropWhile isBlank).reverse
  rw [Option.mem_def.1 hc] at hnot
  exact hnot

end ConnectionRelay.Text
