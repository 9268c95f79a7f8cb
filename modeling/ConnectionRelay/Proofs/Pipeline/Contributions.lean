/-
  ConnectionRelay.Proofs.Pipeline.Contributions
  ─────────────────────────────────────────────
  **WHAT TEMPLATES CONTRIBUTE.**

  A declaration that copies a key of the connection secret contributes one value, under
  its name or else under the key, if the secret has the key.  The contributions of a
  template stand in the order of its declarations, and of several for one key the last
  counts (`lastValue`).  Main statements:

    • `Selection.picked_of` — a selection holds the contributions of the template,
    • `lastValue_append`, `get?_insertMany` — how last values go together.
-/
import ConnectionRelay.Fetcher

namespace ConnectionRelay

/-! ## §1. Last values. -/

section LastValue

variable {α β : Type}

/-- From the end of a list, the first item with a value is the last one. -/
theorem findSome?_reverse_eq_some_iff {items : List β} {f : β → Option α} {v : α} :
    items.reverse.findSome? f = some v ↔ ∃ earlier item later, items = earlier ++ item :: later
      ∧ f item = some v ∧ ∀ other ∈ later, f other = none := by
  rw [List.findSome?_eq_some_iff]
  constructor
  · rintro ⟨later, item, earlier, hsplit, hitem, hlater⟩
    refine ⟨earlier.reverse, item, later.reverse, ?_, hitem, fun other hmem => ?_⟩
    · rw [← List.reverse_reverse items, hsplit]
      simp
    · exact hlater other (List.mem_reverse.1 hmem)
  · rintro ⟨earlier, item, later, rfl, hitem, hlater⟩
    refine ⟨later.reverse, item, earlier.reverse, ?_, hitem, fun other hmem => ?_⟩
    · simp
    · exact hlater other (List.mem_reverse.1 hmem)

/-- The value that stands last under a key: the first one from the end. -/
def lastValue (k : String) (es : List (String × α)) : Option α := Entries.find? k es.reverse

theorem find?_append (k : String) (as bs : List (String × α)) :
    Entries.find? k (as ++ bs) = (Entries.find? k as).or (Entries.find? k bs) := by
  induction as with
  | nil => rfl
  | cons e as ih =>
      obtain ⟨k', v⟩ := e
      by_cases h : k' = k
      · simp [Entries.find?, h]
      · simp [Entries.find?, h, ih]

/-- Of two lists the second one counts first. -/
theorem lastValue_append (k : String) (as bs : List (String × α)) :
    lastValue k (as ++ bs) = (lastValue k bs).or (lastValue k as) := by
  unfold lastValue
  rw [List.reverse_append, find?_append]

theorem lastValue_singleton (k : String) (e : String × α) :
    lastValue k [e] = if e.1 = k then some e.2 else none := rfl

/-- After entries were put into a table one after the other, a key has its last value. -/
theorem get?_insertMany (d : Dict α) (es : List (String × α)) (k : String) :
    (d.insertMany es).get? k = (lastValue k es).or (d.get? k) := by
  -- on the entries from the front, since each is put into what the ones before it made
  induction es generalizing d with
  | nil => rfl
  | cons e es ih =>
      have hput : (d.insert e.1 e.2).get? k = (lastValue k [e]).or (d.get? k) := by
        rw [Dict.get?_insert, lastValue_singleton]
        by_cases h : e.1 = k
        · rw [if_pos h.symm, if_pos h]
          rfl
        · rw [if_neg fun e => h e.symm, if_neg h]
          rfl
      have hlast : lastValue k (e :: es) = (lastValue k es).or (lastValue k [e]) :=
        lastValue_append k [e] es
      show ((d.insert e.1 e.2).insertMany es).get? k = _
      rw [ih, hput, hlast, Option.or_assoc]

/-- Entries go in one part after the other. -/
theorem insertMany_append (d : Dict α) (as bs : List (String × α)) :
    d.insertMany (as ++ bs) = (d.insertMany as).insertMany bs :=
  List.foldl_append

end LastValue

/-! ## §2. Contributions. -/

/-- What a declaration contributes from the payload of a connection secret. -/
def Declaration.contribution? (payload : Details) (d : Declaration) : Option (String × Bytes) :=
  if d.effectiveType = .fromConnectionSecretKey then do
    let source ← d.secretKey
    let value ← payload.get? source
    let target := d.name.getD source
    if target = "" then none else some (target, value)
  else none

/-- What a template contributes, in the order of its declarations. -/
def Template.contributions (payload : Details) (t : Template) : List (String × Bytes) :=
  t.details.filterMap (Declaration.contribution? payload)

namespace Selection

variable {payload : Details} {s : Selection} {d : Declaration}

/-- A declaration that copies nothing contributes nothing. -/
theorem contribution?_of_nothing (h : d.copying = .nothing) : d.contribution? payload = none := by
  unfold Declaration.copying at h
  unfold Declaration.contribution?
  by_cases htype : d.effectiveType = .fromConnectionSecretKey
  · rw [htype] at h
    cases hkey : d.secretKey <;> rw [hkey] at h <;> cases h
  · rw [if_neg htype]

theorem contribution?_of_key {source target : String} (h : d.copying = .key source target) :
    d.contribution? payload
      = (payload.get? source).bind fun value =>
          if target = "" then none else some (target, value) := by
  unfold Declaration.copying at h
  unfold Declaration.contribution?
  by_cases htype : d.effectiveType = .fromConnectionSecretKey
  · rw [htype] at h
    cases hkey : d.secretKey with
    | none => rw [hkey] at h; cases h
    | some key =>
        rw [hkey] at h
        cases h
        rw [if_pos htype]
        rfl
  · split at h <;> simp_all

/-- Copying a key puts the contribution in. -/
theorem picked_copy (source target : String) :
    (s.copy payload source target).picked
      = s.picked.insertMany (((payload.get? source).bind fun value =>
          if target = "" then none else some (target, value)).toList) := by
  unfold copy
  cases payload.get? source with
  | none => rfl
  | some value =>
      by_cases htarget : target = ""
      · simp [htarget, Dict.insertMany]
      · simp [htarget, Dict.insertMany]

/-- Following declarations puts their contributions in, unless one fails to name its key. -/
theorem picked_follow (ds : List Declaration) (h : (s.follow payload ds).unnamed = false) :
    (s.follow payload ds).picked
      = s.picked.insertMany (ds.filterMap (Declaration.contribution? payload)) := by
  -- on the declarations; a key that is not there leaves the selection as it was
  induction ds generalizing s with
  | nil => rfl
  | cons d rest ih =>
      unfold follow at h ⊢
      cases hcopying : d.copying with
      | nothing =>
          rw [hcopying] at h
          rw [List.filterMap_cons_none (contribution?_of_nothing hcopying)]
          exact ih h
      | unnamed =>
          rw [hcopying] at h
          cases h
      | key source target =>
          rw [hcopying] at h
          have hcontribution : d.contribution? payload = _ := contribution?_of_key hcopying
          have hfirst : (d :: rest).filterMap (Declaration.contribution? payload)
              = (d.contribution? payload).toList
                ++ rest.filterMap (Declaration.contribution? payload) := by
            rw [List.filterMap_cons]
            cases d.contribution? payload <;> rfl
          show ((s.copy payload source target).follow payload rest).picked = _
          rw [ih h, picked_copy, ← hcontribution, hfirst, insertMany_append]

/-- A selection holds what the template contributes. -/
theorem picked_of {template : Template} (h : (Selection.of payload template).unnamed = false) :
    (Selection.of payload template).picked
      = .ofList (template.contributions payload) :=
  picked_follow template.details h

end Selection

end ConnectionRelay
