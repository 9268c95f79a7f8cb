/-
  ConnectionRelay.Text.Split
  ──────────────────────────
  **CUTTING A TEXT AT A CHARACTER.**

  A text with `n` separators has `n + 1` segments; put together with separators they
  give the text back (`join_split`), and no segment holds a separator.  Segments that hold
  none are found again (`split_join`).
-/

namespace ConnectionRelay.Text

/-- The segments between separators. -/
def split (separator : Char) : List Char → List (List Char)
  | [] => [[]]
  | c :: rest =>
      if c = separator then [] :: split separator rest
      else
        match split separator rest with
        | [] => [[c]]
        | first :: others => (c :: first) :: others

/-- Put segments together with separators. -/
def join (separator : Char) : List (List Char) → List Char
  | [] => []
  | [s] => s
  | s :: rest => s ++ separator :: join separator rest

theorem split_ne_nil (separator : Char) (cs : List Char) : split separator cs ≠ [] := by
  cases cs with
  | nil => simp [split]
  | cons c rest =>
      unfold split
      split
      · simp
      · split <;> simp

theorem join_cons_of_ne_nil {separator : Char} {s : List Char} {rest : List (List Char)}
    (h : rest ≠ []) : join separator (s :: rest) = s ++ separator :: join separator rest := by
  cases rest with
  | nil => exact absurd rfl h
  | cons r rest => rfl

theorem join_split (separator : Char) (cs : List Char) :
    join separator (split separator cs) = cs := by
  induction cs with
  | nil => rfl
  | cons c rest ih =>
      unfold split
      split
      · next h =>
          subst h
          rw [join_cons_of_ne_nil (split_ne_nil _ _), ih]
          rfl
      · cases hs : split separator rest with
        | nil => exact absurd hs (split_ne_nil _ _)
        | cons first others =>
            rw [hs] at ih
            cases others with
            | nil => simp only [join] at ih ⊢; rw [ih]
            | cons second others =>
                rw [join_cons_of_ne_nil (by simp)] at ih ⊢
                rw [← ih]
                rfl

theorem not_mem_of_mem_split {separator : Char} {cs s : List Char}
    (h : s ∈ split separator cs) : separator ∉ s := by
  induction cs generalizing s with
  | nil => simp [split] at h; simp [h]
  | cons c rest ih =>
      unfold split at h
      split at h
      · rcases List.mem_cons.1 h with h | h
        · simp [h]
        · exact ih h
      · next hc =>
          cases hs : split separator rest with
          | nil => exact absurd hs (split_ne_nil _ _)
          | cons first others =>
              rw [hs] at h ih
              rcases List.mem_cons.1 h with h | h
              · subst h
                have := ih (List.mem_cons_self)
                simp [this, Ne.symm hc]
              · exact ih (List.mem_cons_of_mem _ h)

theorem split_of_not_mem {separator : Char} {s : List Char} (h : separator ∉ s) :
    split separator s = [s] := by
  induction s with
  | nil => rfl
  | cons c s ih =>
      obtain ⟨hc, hs⟩ := not_or.1 (mt List.mem_cons.2 h)
      rw [split, if_neg (Ne.symm hc), ih hs]

/-- The first segment ends at the first separator. -/
theorem split_append {separator : Char} {s : List Char} (h : separator ∉ s) (rest : List Char) :
    split separator (s ++ separator :: rest) = s :: split separator rest := by
  induction s with
  | nil => rw [List.nil_append, split, if_pos rfl]
  | cons c s ih =>
      obtain ⟨hc, hs⟩ := not_or.1 (mt List.mem_cons.2 h)
      rw [List.cons_append, split, if_neg (Ne.symm hc), ih hs]

/-- Segments that hold no separator are found again. -/
theorem split_join {separator : Char} {segments : List (List Char)} (hne : segments ≠ [])
    (h : ∀ s ∈ segments, separator ∉ s) : split separator (join separator segments) = segments := by
  induction segments with
  | nil => exact absurd rfl hne
  | cons s rest ih =>
      obtain ⟨hs, hrest⟩ := List.forall_mem_cons.1 h
      by_cases hnil : rest = []
      · subst hnil
        exact split_of_not_mem hs
      · rw [join_cons_of_ne_nil hnil, split_append hs, ih hnil hrest]

/-- Every character between separators stands in a segment. -/
theorem mem_join_iff {separator c : Char} {segments : List (List Char)} (hne : c ≠ separator) :
    c ∈ join separator segments ↔ ∃ s ∈ segments, c ∈ s := by
  induction segments with
  | nil => simp [join]
  | cons s rest ih =>
      by_cases hnil : rest = []
      · subst hnil
        simp [join]
      · rw [join_cons_of_ne_nil hnil, List.mem_append, List.mem_cons, ih]
        simp [hne]

end ConnectionRelay.Text
