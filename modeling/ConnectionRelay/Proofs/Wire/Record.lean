/-
  ConnectionRelay.Proofs.Wire.Record
  ──────────────────────────────────
  **READING A RECORD FIELD BY FIELD.**

  A wire type is written as a record of the fields that are there, and read by going
  through them in order.  `Shape.Reads` says what reading some fields makes of a partial
  result, and has one introduction rule for each way a field can be written; so a wire
  type is read back by one chain of rules along its declaration.  Main statements:

    • `take_record` — a chain of rules over all fields reads the whole record,
    • `take_says`, `take_says_unrepeated` — each part of what was read is told by its field,
    • `table_value` — a table is read back if its values are,
    • `sent_record`, `sent_ofTexts`, `field_sent` — sending goes through records,
    • `put_record` — setting a field of a record fills its slot.
-/
import ConnectionRelay.Json.Sent
import ConnectionRelay.Wire.Decoding

namespace ConnectionRelay

/-! ## §1. Records. -/

namespace Json

/-- The fields that are there. -/
def present (fields : List (String × Option Json)) : List (String × Json) :=
  fields.filterMap fun f => f.2.map fun v => (f.1, v)

theorem record_eq (fields : List (String × Option Json)) : record fields = .obj (present fields) :=
  rfl

@[simp] theorem present_none (name : String) (rest : List (String × Option Json)) :
    present ((name, none) :: rest) = present rest := rfl

@[simp] theorem present_some (name : String) (v : Json) (rest : List (String × Option Json)) :
    present ((name, some v) :: rest) = (name, v) :: present rest := rfl

theorem present_append (as bs : List (String × Option Json)) :
    present (as ++ bs) = present as ++ present bs :=
  List.filterMap_append ..

theorem mem_names_of_mem_present {f : String × Json} {fields : List (String × Option Json)}
    (h : f ∈ present fields) : f.1 ∈ fields.map Prod.fst := by
  obtain ⟨⟨name, o⟩, hmem, ho⟩ := List.mem_filterMap.1 h
  obtain ⟨v, -, rfl⟩ := Option.map_eq_some_iff.1 ho
  exact List.mem_map.2 ⟨(name, o), hmem, rfl⟩

/-- Fields whose names stand in order. -/
def InOrder (fields : List (String × Option Json)) : Prop :=
  (fields.map Prod.fst).Pairwise (· < ·)

theorem InOrder.nodup {fields : List (String × Option Json)} (h : InOrder fields) :
    (fields.map Prod.fst).Nodup := by
  refine List.Pairwise.imp (fun {p q} hlt => ?_) h
  rintro rfl
  exact String.lt_irrefl _ hlt

theorem sorted_present {fields : List (String × Option Json)} (h : InOrder fields) :
    Entries.Sorted (present fields) := by
  induction fields with
  | nil => exact List.Pairwise.nil
  | cons f fields ih =>
      obtain ⟨name, o⟩ := f
      obtain ⟨hhead, htail⟩ := List.pairwise_cons.1 h
      cases o with
      | none => exact ih htail
      | some v =>
          exact List.pairwise_cons.2
            ⟨fun f hf => hhead f.1 (mem_names_of_mem_present hf), ih htail⟩

/-- A field fills its slot when it is set. -/
theorem put_present {before after : List (String × Option Json)} {name : String}
    {o : Option Json} (h : InOrder (before ++ (name, o) :: after)) (v : Json) :
    Entries.put name v (present (before ++ (name, o) :: after))
      = present (before ++ (name, some v) :: after) := by
  rw [InOrder, List.map_append, List.pairwise_append] at h
  obtain ⟨-, hname, hcross⟩ := h
  have hafter := (List.pairwise_cons.1 hname).1
  have hbefore : ∀ q ∈ before.map Prod.fst, q < name := fun q hq =>
    hcross q hq name List.mem_cons_self
  have hrest : Entries.put name v (present ((name, o) :: after))
      = (name, v) :: present after := by
    cases o with
    | some w => simp [Entries.put]
    | none =>
        rw [present_none]
        cases hp : present after with
        | nil => rfl
        | cons f rest =>
            have hlt := hafter f.1 (mem_names_of_mem_present (by rw [hp]; exact List.mem_cons_self))
            rw [Entries.put, if_pos hlt]
  rw [present_append, present_append, present_some, ← hrest]
  -- the fields before the slot have smaller names, so they are passed over one by one
  have hlt : ∀ f ∈ present before, f.1 < name := fun f hf =>
    hbefore f.1 (mem_names_of_mem_present hf)
  generalize present before = fs at hlt
  induction fs with
  | nil => rfl
  | cons f fs ih =>
      have hf := hlt f List.mem_cons_self
      have hne : name ≠ f.1 := fun e => String.lt_irrefl f.1 (e ▸ hf)
      rw [List.cons_append, Entries.put, if_neg (String.lt_asymm hf), if_neg hne,
        ih fun g hg => hlt g (List.mem_cons_of_mem _ hg)]
      rfl

theorem put_record {before after : List (String × Option Json)} {name : String}
    {o : Option Json} (h : InOrder (before ++ (name, o) :: after)) (v : Json) :
    (record (before ++ (name, o) :: after)).setField name v
      = record (before ++ (name, some v) :: after) := by
  simp only [record_eq, setField, fields, put_present h]

/-! ## §2. Records that were sent. -/

theorem sentFields_eq (fs : List (String × Json)) :
    sentFields fs = fs.map fun f => (f.1, f.2.sent) := by
  induction fs with
  | nil => rfl
  | cons f fs ih => simp [sentFields, ih]

theorem sent_record (fields : List (String × Option Json)) :
    (record fields).sent = record (fields.map fun f => (f.1, f.2.map sent)) := by
  simp only [record_eq, sent, sentFields_eq]
  congr 1
  induction fields with
  | nil => rfl
  | cons f fields ih =>
      obtain ⟨name, o⟩ := f
      cases o <;> simp [ih]

@[simp] theorem sent_str (s : String) : (Json.str s).sent = .str s := rfl

@[simp] theorem sent_ofTexts (d : Dict String) : (ofTexts d).sent = ofTexts d := by
  simp only [ofTexts, ofDict, sent, sentFields_eq, Dict.mapValues, List.map_map]
  rfl

/-- Looking up a field whose name no other field has finds what stands in its slot. -/
theorem find?_present {fields : List (String × Option Json)} {name : String} {o : Option Json}
    (hnodup : (fields.map Prod.fst).Nodup) (h : (name, o) ∈ fields) :
    Entries.find? name (present fields) = o := by
  induction fields with
  | nil => cases h
  | cons f fields ih =>
      obtain ⟨q, p⟩ := f
      obtain ⟨hname, hrest⟩ := List.nodup_cons.1 hnodup
      rcases List.mem_cons.1 h with heq | hmem
      · obtain ⟨rfl, rfl⟩ := Prod.mk.inj heq
        cases o with
        | some v => simp [Entries.find?]
        | none =>
            rw [present_none]
            cases hf : Entries.find? name (present fields) with
            | none => rfl
            | some v =>
                exact absurd (mem_names_of_mem_present (Entries.mem_of_find?_eq_some hf)) hname
      · have hne : q ≠ name := fun e => hname (e ▸ List.mem_map.2 ⟨(name, o), hmem, rfl⟩)
        cases p with
        | none => exact ih hrest hmem
        | some v => simp [Entries.find?, hne, ih hrest hmem]

/-- A field of a record, whose names are different, is what stands in its slot. -/
theorem field_record {fields : List (String × Option Json)} {name : String} {o : Option Json}
    (hnodup : (fields.map Prod.fst).Nodup) (h : (name, o) ∈ fields) :
    (record fields).field name = o.getD .null := by
  show (Entries.find? name (present fields)).getD .null = _
  rw [find?_present hnodup h]

/-- A field of what was sent is what was sent of the field. -/
theorem field_sent (v : Json) (name : String) : (v.sent).field name = (v.field name).sent := by
  cases v with
  | obj fs =>
      simp only [sent, field, sentFields_eq]
      induction fs with
      | nil => rfl
      | cons f fs ih =>
          by_cases h : f.1 = name <;> simp [Entries.find?, h, ih]
  | _ => rfl

end Json

/-! ## §3. Reading records. -/

namespace Wire

theorem option_value {α : Type} {d : Decoder α} {v : Json} (h : v ≠ .null) :
    (option d).value v = (d.value v).map some := by
  cases v with
  | null => contradiction
  | _ => rfl

/-- Nothing is read of `null` alone. -/
theorem option_eq_none_iff {α : Type} {d : Decoder α} {v : Json} {o : Option α}
    (h : (option d).value v = .ok o) : o = none ↔ v = .null := by
  by_cases hnull : v = .null
  · subst hnull
    cases h
    exact ⟨fun _ => rfl, fun _ => rfl⟩
  · rw [option_value hnull] at h
    cases hd : d.value v with
    | error e =>
        rw [hd] at h
        cases h
    | ok a =>
        rw [hd] at h
        cases h
        exact ⟨nofun, fun he => absurd he hnull⟩

namespace Shape

variable {σ α : Type} {shape : Shape σ}

/-- Reading these fields turns one partial result into another. -/
def Reads (shape : Shape σ) (fields : List (String × Option Json)) (s s' : σ) : Prop :=
  ∀ seen : List String, (fields.map Prod.fst).Nodup → (∀ f ∈ fields, f.1 ∉ seen) →
    ∃ seen', (Json.present fields).foldlM shape.takeField (seen, s) = .ok (seen', s')
      ∧ (∀ n ∈ seen, n ∈ seen') ∧ ∀ f ∈ fields, f.2.isSome → f.1 ∈ seen'

theorem Reads.nil (s : σ) : shape.Reads [] s s := fun seen _ _ =>
  ⟨seen, rfl, fun _ h => h, fun _ h => by cases h⟩

theorem Reads.absent {name : String} {rest : List (String × Option Json)} {s s' : σ}
    (h : shape.Reads rest s s') : shape.Reads ((name, none) :: rest) s s' := by
  intro seen hnodup hnew
  obtain ⟨-, hrest⟩ := List.nodup_cons.1 hnodup
  obtain ⟨seen', hfold, hold, hthere⟩ :=
    h seen hrest fun f hf => hnew f (List.mem_cons_of_mem _ hf)
  refine ⟨seen', hfold, hold, fun f hf hsome => ?_⟩
  rcases List.mem_cons.1 hf with rfl | hf
  · cases hsome
  · exact hthere f hf hsome

/-- A field that is there updates the partial result. -/
theorem Reads.cons {f : Field σ} {name : String} {v : Json} {g : σ → σ}
    {rest : List (String × Option Json)} {s s' : σ} (hfield : shape.field? name = some f)
    (hvalue : f.update.value v = .ok g) (h : shape.Reads rest (g s) s') :
    shape.Reads ((name, some v) :: rest) s s' := by
  intro seen hnodup hnew
  obtain ⟨hname, hrest⟩ := List.nodup_cons.1 hnodup
  have hnot : seen.contains name = false := by
    simpa using hnew (name, some v) List.mem_cons_self
  obtain ⟨seen', hfold, hold, hthere⟩ := h (name :: seen) hrest fun f hf hmem => by
    rcases List.mem_cons.1 hmem with rfl | hmem
    · exact hname (List.mem_map.2 ⟨f, hf, rfl⟩)
    · exact hnew f (List.mem_cons_of_mem _ hf) hmem
  refine ⟨seen', ?_, fun n hn => hold n (List.mem_cons_of_mem _ hn), fun f hf hsome => ?_⟩
  · rw [Json.present_some, List.foldlM_cons, takeField]
    simp only [hfield, meet, hnot, hvalue, Bool.false_and]
    exact hfold
  · rcases List.mem_cons.1 hf with rfl | hf
    · exact hold _ List.mem_cons_self
    · exact hthere f hf hsome

/-- An optional field is read whether it is there or not. -/
theorem Reads.optional {name : String} {d : Decoder α} {set : σ → Option α → σ}
    {rest : List (String × Option Json)} {s s' : σ} {enc : α → Json} (o : Option α)
    (hfield : shape.field? name = some (.optional name d set))
    (hvalue : ∀ a, o = some a → d.value (enc a) = .ok a ∧ enc a ≠ .null)
    (hnone : set s none = s) (h : shape.Reads rest (set s o) s') :
    shape.Reads ((name, o.map enc) :: rest) s s' := by
  cases o with
  | none => exact .absent (hnone ▸ h)
  | some a =>
      obtain ⟨hread, hnull⟩ := hvalue a rfl
      have hoption : (option d).value (enc a) = .ok (some a) := by
        rw [option_value hnull, hread]
        rfl
      refine .cons hfield (g := fun s => set s (some a)) ?_ h
      simp only [Field.optional, Field.defaulted, Decoder.map, Decoder.andThen, hoption]
      rfl

/-- No field is missing if those that are needed were met. -/
theorem missing?_eq_none_iff {seen : List String} : shape.missing? seen = none
    ↔ ∀ f ∈ shape.fields, f.omissible = false → f.name ∈ seen := by
  rw [missing?, Option.map_eq_none_iff, List.find?_eq_none]
  simp

/-- A whole record is read field by field. -/
theorem take_record {fields : List (String × Option Json)} {start s : σ}
    (hnodup : (fields.map Prod.fst).Nodup)
    (hneeded : ∀ f ∈ shape.fields, f.omissible = false →
      ∃ v, (f.name, some v) ∈ fields)
    (h : shape.Reads fields start s) : (shape.decode start).value (.record fields) = .ok s := by
  obtain ⟨seen, hfold, -, hthere⟩ := h [] hnodup fun _ _ => by simp
  -- every field that is needed is there, and so it was seen
  have hmissing : shape.missing? seen = none := by
    refine missing?_eq_none_iff.2 fun f hf hom => ?_
    obtain ⟨v, hv⟩ := hneeded f hf hom
    exact hthere _ hv rfl
  show shape.take start (.obj (Json.present fields)) = _
  simp only [take, hfold, bind, Except.bind, complete, hmissing]

end Shape

/-! ## §4. What one field says. -/

namespace Field

variable {σ α : Type}

/-- What a field updates with. -/
theorem update_defaulted {name : String} {d : Decoder α} {set : σ → α → σ} {v : Json}
    {g : σ → σ} (h : (Field.defaulted name d set).update.value v = .ok g) :
    ∃ a, d.value v = .ok a ∧ g = fun s => set s a := by
  simp only [Field.defaulted, Decoder.map, Decoder.andThen] at h
  cases ha : d.value v with
  | error e => simp [ha, bind, Except.bind] at h
  | ok a =>
      simp only [ha, bind, Except.bind, Except.ok.injEq] at h
      exact ⟨a, rfl, h.symm⟩

end Field

namespace Shape

variable {σ γ : Type} {shape : Shape σ} {part : σ → γ} {name : String} {f : Field σ}

/-- Every field but one leaves a part of the result alone. -/
def Owns (shape : Shape σ) (part : σ → γ) (name : String) : Prop :=
  ∀ f ∈ shape.fields, f.name ≠ name → ∀ v g s, f.update.value v = .ok g → part (g s) = part s

/-- Fields that are not declared leave a part of the result alone. -/
def Spares (shape : Shape σ) (part : σ → γ) : Prop :=
  ∀ put, shape.others = .kept put → ∀ k v s, part (put k v s) = part s

theorem spares_of_skipped (hskip : shape.others = .skipped) : shape.Spares part := by
  intro put hkept
  rw [hskip] at hkept
  cases hkept

theorem takeField_of_ne (howns : shape.Owns part name) (hspares : shape.Spares part)
    {entry : String × Json} (hne : entry.1 ≠ name) {seen seen' : List String} {s s' : σ}
    (h : shape.takeField (seen, s) entry = .ok (seen', s')) : part s' = part s := by
  unfold takeField at h
  simp only at h
  cases hf : shape.field? entry.1 with
  | none =>
      simp only [hf] at h
      cases hothers : shape.others with
      | skipped =>
          simp only [hothers, Except.ok.injEq, Prod.mk.injEq] at h
          rw [h.2]
      | kept put =>
          simp only [hothers, Except.ok.injEq, Prod.mk.injEq] at h
          rw [← h.2, hspares put hothers]
  | some f =>
      have hname : f.name = entry.1 := by simpa using List.find?_some hf
      simp only [hf] at h
      cases hm : shape.meet entry.1 seen with
      | error e => simp [hm, bind, Except.bind] at h
      | ok seen'' =>
          cases hg : f.update.value entry.2 with
          | error e => simp [hm, hg, bind, Except.bind] at h
          | ok g =>
              simp only [hm, hg, bind, Except.bind, pure, Except.pure, Except.ok.injEq,
                Prod.mk.injEq] at h
              rw [← h.2]
              exact howns f (List.mem_of_find?_eq_some hf) (hname ▸ hne) _ _ _ hg

theorem takeField_self (hfield : shape.field? name = some f) {v : Json}
    {seen seen' : List String} {s s' : σ}
    (h : shape.takeField (seen, s) (name, v) = .ok (seen', s')) :
    ∃ g, f.update.value v = .ok g ∧ s' = g s := by
  unfold takeField at h
  simp only [hfield] at h
  cases hm : shape.meet name seen with
  | error e => simp [hm, bind, Except.bind] at h
  | ok seen'' =>
      cases hg : f.update.value v with
      | error e => simp [hm, hg, bind, Except.bind] at h
      | ok g =>
          simp only [hm, hg, bind, Except.bind, pure, Except.pure, Except.ok.injEq,
            Prod.mk.injEq] at h
          exact ⟨g, rfl, h.2.symm⟩

/-- What a field leaves in its part of the result. -/
def Says (f : Field σ) (part : σ → γ) (s s' : σ) : Option Json → Prop
  | none => part s' = part s
  | some v => ∃ g s₀, f.update.value v = .ok g ∧ part s' = part (g s₀)

/-- No field of this name follows another one. -/
def Once (name : String) (fs : List (String × Json)) : Prop :=
  fs.Pairwise fun e f => e.1 = name → f.1 ≠ name

theorem once_of_sorted {fs : List (String × Json)} (h : Entries.Sorted fs) : Once name fs := by
  refine List.Pairwise.imp (fun {e f} hlt he hf => ?_) h
  rw [he, hf] at hlt
  exact String.lt_irrefl _ hlt

theorem foldlM_says (howns : shape.Owns part name) (hspares : shape.Spares part)
    (hfield : shape.field? name = some f) :
    ∀ (fs : List (String × Json)), Once name fs → ∀ (seen seen' : List String) (s s' : σ),
      fs.foldlM shape.takeField (seen, s) = .ok (seen', s') →
      Says f part s s' (Entries.find? name fs) := by
  intro fs
  induction fs with
  | nil =>
      intro _ seen seen' s s' h
      cases h
      rfl
  | cons e fs ih =>
      intro honce seen seen' s s' h
      obtain ⟨hhead, htail⟩ := List.pairwise_cons.1 honce
      rw [List.foldlM_cons] at h
      cases hstep : shape.takeField (seen, s) e with
      | error x => simp [hstep, bind, Except.bind] at h
      | ok next =>
          obtain ⟨seen₁, s₁⟩ := next
          simp only [hstep, bind, Except.bind] at h
          have hsays := ih htail seen₁ seen' s₁ s' h
          by_cases hk : e.1 = name
          · -- the rest does not repeat the name
            have hnone := Entries.find?_eq_none_iff.2 fun f hf => hhead f hf hk
            obtain ⟨k, v⟩ := e
            obtain rfl : k = name := hk
            obtain ⟨g, hg, rfl⟩ := takeField_self hfield hstep
            rw [hnone] at hsays
            simp only [Entries.find?, if_true]
            exact ⟨g, s, hg, hsays⟩
          · have hpart := takeField_of_ne howns hspares hk hstep
            rw [Entries.find?, if_neg hk]
            cases hf : Entries.find? name fs with
            | none => rw [hf] at hsays; exact hsays.trans hpart
            | some v => rw [hf] at hsays; exact hsays

/-- Only objects are taken where arrays are refused. -/
theorem obj_of_take (hpositional : shape.positional = false) {start s : σ} {v : Json}
    (h : shape.take start v = .ok s) : v = .obj v.fields := by
  cases v with
  | obj fs => rfl
  | arr vs =>
      unfold take at h
      rw [hpositional] at h
      cases h
  | _ => cases h

/-- Where fields may not be repeated, only new names are met. -/
theorem meet_eq_ok (hrepeats : shape.repeats = false) {seen seen' : List String}
    (h : shape.meet name seen = .ok seen') : name ∉ seen ∧ seen' = name :: seen := by
  unfold meet at h
  by_cases hmet : name ∈ seen
  · simp [hrepeats, hmet] at h
  · simp only [hrepeats, Bool.not_false, Bool.and_true, List.contains_eq_mem, hmet, decide_false,
      Bool.false_eq_true, if_false, Except.ok.injEq] at h
    exact ⟨hmet, h.symm⟩

/-- Where fields may not be repeated, taking a declared field marks a new name as met. -/
theorem takeField_seen (hrepeats : shape.repeats = false) (hfield : shape.field? name = some f)
    {entry : String × Json} {seen seen' : List String} {s s' : σ}
    (h : shape.takeField (seen, s) entry = .ok (seen', s')) :
    (∀ n ∈ seen, n ∈ seen') ∧ (entry.1 = name → name ∉ seen ∧ name ∈ seen') := by
  unfold takeField at h
  simp only at h
  cases hf : shape.field? entry.1 with
  | none =>
      have hne : entry.1 ≠ name := by
        rintro rfl
        rw [hf] at hfield
        cases hfield
      have hsame : seen' = seen := by
        cases hothers : shape.others <;>
          · simp only [hf, hothers, Except.ok.injEq, Prod.mk.injEq] at h
            exact h.1.symm
      rw [hsame]
      exact ⟨fun n hn => hn, fun he => absurd he hne⟩
  | some g =>
      simp only [hf] at h
      cases hm : shape.meet entry.1 seen with
      | error e => simp [hm, bind, Except.bind] at h
      | ok met =>
          cases hg : g.update.value entry.2 with
          | error e => simp [hm, hg, bind, Except.bind] at h
          | ok update =>
              simp only [hm, hg, bind, Except.bind, pure, Except.pure, Except.ok.injEq,
                Prod.mk.injEq] at h
              obtain ⟨hnew, rfl⟩ := meet_eq_ok hrepeats hm
              rw [← h.1]
              refine ⟨fun n hn => List.mem_cons_of_mem _ hn, ?_⟩
              rintro rfl
              exact ⟨hnew, List.mem_cons_self⟩

/-- Where fields may not be repeated, a field that is met is met once. -/
theorem foldlM_once (hrepeats : shape.repeats = false) (hfield : shape.field? name = some f) :
    ∀ (fs : List (String × Json)) (seen seen' : List String) (s s' : σ),
      fs.foldlM shape.takeField (seen, s) = .ok (seen', s') →
      (name ∈ seen → ∀ e ∈ fs, e.1 ≠ name) ∧ Once name fs := by
  intro fs
  induction fs with
  | nil =>
      intro seen seen' s s' _
      exact ⟨fun _ => List.forall_mem_nil _, List.Pairwise.nil⟩
  | cons e fs ih =>
      intro seen seen' s s' h
      rw [List.foldlM_cons] at h
      cases hstep : shape.takeField (seen, s) e with
      | error x => simp [hstep, bind, Except.bind] at h
      | ok next =>
          obtain ⟨seen₁, s₁⟩ := next
          simp only [hstep, bind, Except.bind] at h
          obtain ⟨hold, hnew⟩ := takeField_seen hrepeats hfield hstep
          obtain ⟨hrest, honce⟩ := ih seen₁ seen' s₁ s' h
          exact ⟨fun hmem => List.forall_mem_cons.2
              ⟨fun he => (hnew he).1 hmem, hrest (hold _ hmem)⟩,
            List.pairwise_cons.2 ⟨fun g hg he => hrest (hnew he).2 g hg, honce⟩⟩

/-- What was read of an object that has a field once says of one part what the field says. -/
theorem take_says_of_once (howns : shape.Owns part name) (hspares : shape.Spares part)
    (hfield : shape.field? name = some f) {fs : List (String × Json)} {start s : σ}
    (honce : ∀ seen, fs.foldlM shape.takeField ([], start) = .ok (seen, s) → Once name fs)
    (h : shape.take start (.obj fs) = .ok s) : Says f part start s (Entries.find? name fs) := by
  unfold take at h
  simp only at h
  cases hfold : fs.foldlM shape.takeField ([], start) with
  | error e => simp [hfold, bind, Except.bind] at h
  | ok last =>
      obtain ⟨seen, s'⟩ := last
      simp only [hfold, bind, Except.bind, complete] at h
      split at h
      · cases h
      · cases h
        exact foldlM_says howns hspares hfield fs (honce seen hfold) [] seen start s hfold

/-- What was read of a sorted object says of one part what the field of the part says. -/
theorem take_says (howns : shape.Owns part name) (hskip : shape.others = .skipped)
    (hfield : shape.field? name = some f) {fs : List (String × Json)} (hsorted : Entries.Sorted fs)
    {start s : σ} (h : shape.take start (.obj fs) = .ok s) :
    Says f part start s (Entries.find? name fs) :=
  take_says_of_once howns (spares_of_skipped hskip) hfield (fun _ _ => once_of_sorted hsorted) h

/-- The same where fields may not be repeated, whatever the order of the object's fields. -/
theorem take_says_unrepeated (howns : shape.Owns part name) (hspares : shape.Spares part)
    (hfield : shape.field? name = some f) (hrepeats : shape.repeats = false)
    {fs : List (String × Json)} {start s : σ} (h : shape.take start (.obj fs) = .ok s) :
    Says f part start s (Entries.find? name fs) :=
  take_says_of_once howns hspares hfield
    (fun seen hfold => (foldlM_once hrepeats hfield fs [] seen start s hfold).2) h

end Shape

/-! ## §5. Tables. -/

theorem foldlM_insert {α : Type} {read : Json → Except DecodeError α} {enc : α → Json} :
    ∀ (es : List (String × α)), (∀ e ∈ es, read (enc e.2) = .ok e.2) → ∀ t : Dict α,
      (es.map fun e => (e.1, enc e.2)).foldlM
          (fun t f => (read f.2).map fun a => t.insert f.1 a) t
        = .ok (t.insertMany es) := by
  intro es
  induction es with
  | nil => intro _ t; rfl
  | cons e es ih =>
      intro h t
      have he := h e List.mem_cons_self
      rw [List.map_cons, List.foldlM_cons, he]
      exact ih (fun f hf => h f (List.mem_cons_of_mem _ hf)) _

/-- A table is read back if its values are. -/
theorem table_value {α : Type} {d : Decoder α} {enc : α → Json} (t : Dict α)
    (h : ∀ e ∈ t.entries, d.value (enc e.2) = .ok e.2) :
    (table d).value (.ofDict (t.mapValues enc)) = .ok t := by
  show (t.entries.map fun e => (e.1, enc e.2)).foldlM _ Dict.empty = _
  rw [foldlM_insert t.entries h]
  exact congrArg _ t.empty_merge

@[simp] theorem table_text_ofTexts (t : Dict String) :
    (table text).value (.ofTexts t) = .ok t :=
  table_value t fun _ _ => rfl

end Wire

end ConnectionRelay
