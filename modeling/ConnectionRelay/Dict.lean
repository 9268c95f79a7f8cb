/-
  ConnectionRelay.Dict
  ────────────────────
  **TEXT-KEYED TABLES WITH ONE FORM PER CONTENT.**

  A `Dict` is a list of entries in strictly increasing key order (by code point,
  which is also the order of the keys' UTF-8 bytes).  Its view is `get?`.  Every
  operation has one lemma that says what it does to the view, and `Dict.ext` says
  that the view decides the table, so equal contents are equal values.

  The insertion `Entries.put` works on plain entry lists, because a type that
  contains itself (a JSON value) cannot hold the bundled form; its lookup lemmas
  need no order.
-/

namespace ConnectionRelay

/-! ## §1. Entry lists. -/

namespace Entries

variable {α β : Type}

/-- Put an entry into a sorted list; an entry with the same key is replaced. -/
def put (k : String) (v : α) : List (String × α) → List (String × α)
  | [] => [(k, v)]
  | (k', v') :: rest =>
      if k < k' then (k, v) :: (k', v') :: rest
      else if k = k' then (k, v) :: rest
      else (k', v') :: put k v rest

/-- Take the entry with this key out. -/
def drop (k : String) : List (String × α) → List (String × α)
  | [] => []
  | (k', v) :: rest => if k' = k then drop k rest else (k', v) :: drop k rest

/-- The value of the first entry with this key. -/
def find? (k : String) : List (String × α) → Option α
  | [] => none
  | (k', v) :: rest => if k' = k then some v else find? k rest

/-- Keys strictly increase. -/
def Sorted (es : List (String × α)) : Prop :=
  es.Pairwise fun a b => a.1 < b.1

theorem find?_put_self (k : String) (v : α) (es : List (String × α)) :
    find? k (put k v es) = some v := by
  induction es with
  | nil => simp [put, find?]
  | cons e rest ih =>
      obtain ⟨k', v'⟩ := e
      unfold put
      split
      · simp [find?]
      · split
        · simp [find?]
        · next hne => simp [find?, Ne.symm hne, ih]

theorem find?_put_ne {k q : String} (h : q ≠ k) (v : α) (es : List (String × α)) :
    find? q (put k v es) = find? q es := by
  induction es with
  | nil => simp [put, find?, Ne.symm h]
  | cons e rest ih =>
      obtain ⟨k', v'⟩ := e
      unfold put
      split
      · simp [find?, Ne.symm h]
      · split
        · next heq => subst heq; simp [find?, Ne.symm h]
        · by_cases hk : k' = q <;> simp [find?, hk, ih]

theorem find?_drop (k q : String) (es : List (String × α)) :
    find? q (drop k es) = if q = k then none else find? q es := by
  induction es with
  | nil => simp [drop, find?]
  | cons e rest ih =>
      obtain ⟨k', v'⟩ := e
      unfold drop
      by_cases hk : k' = k
      · subst hk
        by_cases hq : q = k'
        · subst hq; simpa using ih
        · simp [ih, hq, find?, Ne.symm hq]
      · by_cases hq : k' = q
        · subst hq; simp [hk, find?]
        · simp [hk, find?, hq, ih]

theorem drop_sublist (k : String) (es : List (String × α)) : (drop k es).Sublist es := by
  induction es with
  | nil => exact .slnil
  | cons e rest ih =>
      obtain ⟨k', v'⟩ := e
      unfold drop
      split
      · exact ih.cons _
      · exact ih.cons_cons _

theorem mem_put {k : String} {v : α} {e : String × α} {es : List (String × α)}
    (h : e ∈ put k v es) : e = (k, v) ∨ e ∈ es := by
  induction es with
  | nil => simpa [put] using h
  | cons e' rest ih =>
      obtain ⟨k', v'⟩ := e'
      unfold put at h
      split at h
      · simpa using h
      · split at h
        · rcases List.mem_cons.1 h with h | h
          · exact .inl h
          · exact .inr (List.mem_cons_of_mem _ h)
        · rcases List.mem_cons.1 h with h | h
          · exact .inr (by simp [h])
          · exact (ih h).imp_right (List.mem_cons_of_mem _)

/-- Of two different keys one comes first. -/
theorem key_lt_of_not {a b : String} (h : ¬ a < b) (hne : a ≠ b) : b < a :=
  Decidable.byContradiction fun hba =>
    hne (String.le_antisymm (String.not_lt.1 hba) (String.not_lt.1 h))

theorem sorted_put {k : String} {v : α} {es : List (String × α)} (h : Sorted es) :
    Sorted (put k v es) := by
  induction es with
  | nil => simp [put, Sorted]
  | cons e rest ih =>
      obtain ⟨k', v'⟩ := e
      obtain ⟨hhead, htail⟩ := List.pairwise_cons.1 h
      unfold put
      split
      · next hlt =>
          refine List.pairwise_cons.2 ⟨fun b hb => ?_, h⟩
          rcases List.mem_cons.1 hb with hb | hb
          · exact hb ▸ hlt
          · exact String.lt_trans hlt (hhead b hb)
      · next hnlt =>
          split
          · next heq =>
              subst heq
              exact List.pairwise_cons.2 ⟨hhead, htail⟩
          · next hne =>
              refine List.pairwise_cons.2 ⟨fun b hb => ?_, ih htail⟩
              rcases mem_put hb with hb | hb
              · subst hb; exact key_lt_of_not hnlt hne
              · exact hhead b hb

theorem sorted_drop (k : String) {es : List (String × α)} (h : Sorted es) :
    Sorted (drop k es) :=
  h.sublist (drop_sublist k es)

theorem find?_eq_some_of_mem {es : List (String × α)} (h : Sorted es) {k : String} {v : α}
    (hm : (k, v) ∈ es) : find? k es = some v := by
  induction es with
  | nil => cases hm
  | cons e rest ih =>
      obtain ⟨k', v'⟩ := e
      obtain ⟨hhead, htail⟩ := List.pairwise_cons.1 h
      rcases List.mem_cons.1 hm with hm | hm
      · cases hm; simp [find?]
      · have hlt := hhead _ hm
        have hne : k' ≠ k := fun heq => String.lt_irrefl k (heq ▸ hlt)
        simp [find?, hne, ih htail hm]

theorem mem_of_find?_eq_some {es : List (String × α)} {k : String} {v : α}
    (h : find? k es = some v) : (k, v) ∈ es := by
  induction es with
  | nil => simp [find?] at h
  | cons e rest ih =>
      obtain ⟨k', v'⟩ := e
      unfold find? at h
      split at h
      · next heq => subst heq; cases h; simp
      · exact List.mem_cons_of_mem _ (ih h)

theorem find?_eq_none_iff {es : List (String × α)} {k : String} :
    find? k es = none ↔ ∀ e ∈ es, e.1 ≠ k := by
  induction es with
  | nil => simp [find?]
  | cons e rest ih =>
      rw [find?, List.forall_mem_cons]
      by_cases h : e.1 = k
      · simp [h]
      · simp [h, ih]

/-- Sorted lists with the same lookups are the same list. -/
theorem eq_of_find?_eq {as bs : List (String × α)} (ha : Sorted as) (hb : Sorted bs)
    (h : ∀ k, find? k as = find? k bs) : as = bs := by
  induction as generalizing bs with
  | nil =>
      cases bs with
      | nil => rfl
      | cons b rest => have := h b.1; simp [find?] at this
  | cons a rest ih =>
      cases bs with
      | nil => have := h a.1; simp [find?] at this
      | cons b rest' =>
          obtain ⟨ka, va⟩ := a
          obtain ⟨kb, vb⟩ := b
          obtain ⟨hah, hat⟩ := List.pairwise_cons.1 ha
          obtain ⟨hbh, hbt⟩ := List.pairwise_cons.1 hb
          have hkey : ka = kb := by
            apply Decidable.byContradiction
            intro hne
            by_cases hlt : ka < kb
            · have hget := h ka
              rw [show find? ka ((ka, va) :: rest) = some va by simp [find?]] at hget
              rcases List.mem_cons.1 (mem_of_find?_eq_some hget.symm) with hm | hm
              · exact hne (Prod.mk.inj hm).1
              · exact String.lt_irrefl _ (String.lt_trans hlt (hbh _ hm))
            · have hlt' := key_lt_of_not hlt hne
              have hget := h kb
              rw [show find? kb ((kb, vb) :: rest') = some vb by simp [find?]] at hget
              rcases List.mem_cons.1 (mem_of_find?_eq_some hget) with hm | hm
              · exact hne (Prod.mk.inj hm).1.symm
              · exact String.lt_irrefl _ (String.lt_trans hlt' (hah _ hm))
          subst hkey
          have hval : va = vb := by
            have hget := h ka
            simpa [find?] using hget
          subst hval
          have hrest : rest = rest' := by
            apply ih hat hbt
            intro q
            by_cases hq : ka = q
            · subst hq
              have none_of {l : List (String × α)} (hl : ∀ e ∈ l, ka < e.1) :
                  find? ka l = none := by
                cases hf : find? ka l with
                | none => rfl
                | some v =>
                    exact absurd (hl _ (mem_of_find?_eq_some hf)) (String.lt_irrefl ka)
              rw [none_of hah, none_of hbh]
            · have hget := h q
              simpa [find?, hq] using hget
          rw [hrest]

end Entries

/-! ## §2. Tables. -/

/-- A table from texts to values. -/
structure Dict (α : Type) where
  /-- The entries, in strictly increasing key order. -/
  entries : List (String × α)
  sorted : Entries.Sorted entries

namespace Dict

variable {α β : Type}

/-- The value at a key, if there is one. -/
def get? (d : Dict α) (k : String) : Option α := Entries.find? k d.entries

/-- A table is decided by its lookups. -/
@[ext] theorem ext {a b : Dict α} (h : ∀ k, a.get? k = b.get? k) : a = b := by
  obtain ⟨as, ha⟩ := a
  obtain ⟨bs, hb⟩ := b
  have : as = bs := Entries.eq_of_find?_eq ha hb h
  subst this
  rfl

instance [DecidableEq α] : DecidableEq (Dict α) := fun a b =>
  match decEq a.entries b.entries with
  | isTrue h => isTrue (by cases a; cases b; cases h; rfl)
  | isFalse h => isFalse fun hab => h (hab ▸ rfl)

instance [BEq α] : BEq (Dict α) where
  beq a b := a.entries == b.entries

instance [BEq α] [LawfulBEq α] : LawfulBEq (Dict α) where
  rfl {d} := show (d.entries == d.entries) = true from beq_self_eq_true _
  eq_of_beq {a b} h := by
    obtain ⟨as, ha⟩ := a
    obtain ⟨bs, hb⟩ := b
    have hentries : (as == bs) = true := h
    cases eq_of_beq hentries
    rfl

instance [Repr α] : Repr (Dict α) where
  reprPrec d n := reprPrec d.entries n

/-- The table with no entries. -/
def empty : Dict α := ⟨[], List.Pairwise.nil⟩

instance : EmptyCollection (Dict α) := ⟨empty⟩
instance : Inhabited (Dict α) := ⟨empty⟩

/-- Set the value at a key. -/
def insert (d : Dict α) (k : String) (v : α) : Dict α :=
  ⟨Entries.put k v d.entries, Entries.sorted_put d.sorted⟩

/-- Take a key out. -/
def erase (d : Dict α) (k : String) : Dict α :=
  ⟨Entries.drop k d.entries, Entries.sorted_drop k d.sorted⟩

/-- Overwrite a table with a list of entries, the last one for a key winning. -/
def insertMany (d : Dict α) (es : List (String × α)) : Dict α :=
  es.foldl (fun d e => d.insert e.1 e.2) d

/-- The table of a list of entries, the last one for a key winning. -/
def ofList (es : List (String × α)) : Dict α := insertMany empty es

/-- Overwrite a table with another one. -/
def merge (into «from» : Dict α) : Dict α := into.insertMany from.entries

/-- Keep the entries whose key passes a test. -/
def filterKeys (d : Dict α) (p : String → Bool) : Dict α :=
  ⟨d.entries.filter (fun e => p e.1), d.sorted.filter _⟩

/-- The keys, in order. -/
def keys (d : Dict α) : List String := d.entries.map Prod.fst

/-- The number of entries. -/
def size (d : Dict α) : Nat := d.entries.length

/-- Has the table no entries? -/
def isEmpty (d : Dict α) : Bool := d.entries.isEmpty

/-- Is there a value at this key? -/
def contains (d : Dict α) (k : String) : Bool := (d.get? k).isSome

/-- Change every value. -/
def mapValues (f : α → β) (d : Dict α) : Dict β :=
  ⟨d.entries.map fun e => (e.1, f e.2), by
    have h := d.sorted
    unfold Entries.Sorted at h ⊢
    rw [List.pairwise_map]
    exact h⟩

/-! ## §3. What each operation does to the lookups. -/

@[simp] theorem get?_empty (k : String) : (empty : Dict α).get? k = none := rfl

@[simp] theorem get?_insert (d : Dict α) (k q : String) (v : α) :
    (d.insert k v).get? q = if q = k then some v else d.get? q := by
  by_cases h : q = k
  · subst h; simp [get?, insert, Entries.find?_put_self]
  · simp [get?, insert, Entries.find?_put_ne h, h]

@[simp] theorem get?_erase (d : Dict α) (k q : String) :
    (d.erase k).get? q = if q = k then none else d.get? q :=
  Entries.find?_drop k q d.entries

@[simp] theorem get?_filterKeys (d : Dict α) (p : String → Bool) (k : String) :
    (d.filterKeys p).get? k = if p k then d.get? k else none := by
  obtain ⟨es, hs⟩ := d
  simp only [get?, filterKeys]
  clear hs
  induction es with
  | nil => simp [Entries.find?]
  | cons e rest ih =>
      obtain ⟨k', v⟩ := e
      by_cases hp : p k'
      · by_cases hk : k' = k
        · subst hk; simp [hp, Entries.find?]
        · simp [hp, Entries.find?, hk, ih]
      · by_cases hk : k' = k
        · subst hk; simp [hp, ih]
        · simp [hp, Entries.find?, hk, ih]

@[simp] theorem get?_mapValues (f : α → β) (d : Dict α) (k : String) :
    (d.mapValues f).get? k = (d.get? k).map f := by
  obtain ⟨es, hs⟩ := d
  simp only [get?, mapValues]
  clear hs
  induction es with
  | nil => rfl
  | cons e rest ih =>
      obtain ⟨k', v⟩ := e
      by_cases hk : k' = k <;> simp [Entries.find?, hk, ih]

theorem get?_insertMany_of_forall_ne (d : Dict α) {es : List (String × α)} {k : String}
    (h : ∀ e ∈ es, e.1 ≠ k) : (d.insertMany es).get? k = d.get? k := by
  induction es generalizing d with
  | nil => rfl
  | cons e rest ih =>
      have he := h e List.mem_cons_self
      simp only [insertMany, List.foldl_cons] at ih ⊢
      rw [ih _ fun e he => h e (List.mem_cons_of_mem _ he)]
      simp [Ne.symm he]

/-- The entries of the second table win, and nothing else changes. -/
@[simp] theorem get?_merge (a b : Dict α) (k : String) :
    (a.merge b).get? k = (b.get? k).or (a.get? k) := by
  obtain ⟨es, hs⟩ := b
  unfold merge
  simp only [get?]
  induction es generalizing a with
  | nil => rfl
  | cons e rest ih =>
      obtain ⟨k', v⟩ := e
      obtain ⟨hhead, htail⟩ := List.pairwise_cons.1 hs
      by_cases hk : k' = k
      · subst hk
        have hne : ∀ e ∈ rest, e.1 ≠ k' := fun e he heq =>
          String.lt_irrefl k' (heq ▸ hhead e he)
        have := get?_insertMany_of_forall_ne (a.insert k' v) hne
        simp only [get?] at this
        simpa [insertMany, Entries.find?, insert, Entries.find?_put_self] using this
      · have := ih (a.insert k' v) htail
        simp only [insertMany, List.foldl_cons] at this ⊢
        rw [this]
        simp [Entries.find?, hk, insert, Entries.find?_put_ne (Ne.symm hk)]

theorem merge_assoc (a b c : Dict α) : (a.merge b).merge c = a.merge (b.merge c) := by
  ext1
  simp only [get?_merge, Option.or_assoc]

theorem merge_empty (d : Dict α) : d.merge .empty = d := by
  ext1
  simp only [get?_merge, get?_empty, Option.none_or]

theorem empty_merge (d : Dict α) : empty.merge d = d := by
  ext1
  simp only [get?_merge, get?_empty, Option.or_none]

/-- Overwriting a table changes nothing if the entries are there already. -/
theorem merge_eq_left_iff {a b : Dict α} :
    a.merge b = a ↔ ∀ k v, b.get? k = some v → a.get? k = some v := by
  constructor
  · intro h k v hk
    rw [← h, get?_merge, hk]
    rfl
  · intro h
    refine Dict.ext fun k => ?_
    rw [get?_merge]
    cases hk : b.get? k with
    | none => rfl
    | some v => exact (h k v hk).symm

theorem isEmpty_iff (d : Dict α) : d.isEmpty = true ↔ d = empty := by
  obtain ⟨es, hs⟩ := d
  cases es with
  | nil => simp [isEmpty, empty]
  | cons e rest =>
      constructor
      · intro h; cases h
      · intro h; cases congrArg entries h

end Dict

end ConnectionRelay
