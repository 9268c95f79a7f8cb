/-
  ConnectionRelay.Proofs.Wire.Gives
  ─────────────────────────────────
  **WHAT DECODERS GIVE.**

  A decoder gives what it takes from some JSON value, and what it reads off some text.  What
  holds of everything that a decoder gives is proved of both sides at once, by one rule for
  each way to make a decoder of others.  Main statements:

    • `Shape.Keeps.of_gives` — what the start has and every field keeps, everything read has,
    • `Gives.of_list` — the items of a list are given by their decoder,
    • `ne_null_of_gives` — a field that may be left out is never read as `null`.
-/
import ConnectionRelay.Proofs.Wire.Record

namespace ConnectionRelay.Wire

/-! ## §1. Steps that succeed. -/

section

variable {ε δ α β : Type}

theorem bind_eq_ok {x : Except ε α} {f : α → Except ε β} {b : β} :
    (x >>= f) = .ok b ↔ ∃ a, x = .ok a ∧ f a = .ok b := by
  cases x <;> simp [bind, Except.bind]

theorem map_eq_ok {x : Except ε α} {f : α → β} {b : β} :
    x.map f = .ok b ↔ ∃ a, x = .ok a ∧ f a = b := by
  cases x <;> simp [Except.map]

theorem mapError_eq_ok {x : Except ε α} {f : ε → δ} {a : α} :
    x.mapError f = .ok a ↔ x = .ok a := by
  cases x with
  | error e => exact ⟨nofun, nofun⟩
  | ok b =>
      constructor
      · rintro ⟨⟩
        rfl
      · rintro ⟨⟩
        rfl

theorem locate_eq_ok {rest : List Char} {r : Except DecodeError α} {a : α} :
    locate rest r = .ok a ↔ r = .ok a :=
  mapError_eq_ok

theorem liftM_eq_ok {r : Json.Reading α} {a : α} : (liftM r : Reading α) = .ok a ↔ r = .ok a :=
  mapError_eq_ok

theorem not_refuseText {expected : String} {cs : List Char} {a : α} :
    refuseText expected cs ≠ .ok a := by
  unfold refuseText
  split
  · exact nofun
  · exact nofun
  · intro h
    obtain ⟨⟨v, rest⟩, -, hrefused⟩ := bind_eq_ok.1 h
    cases locate_eq_ok.1 hrefused

theorem nested_eq_ok {depth : Nat} {rest : List Char} {read : Nat → Reading α} {a : α}
    (h : nested depth rest read = .ok a) : ∃ depth, read depth = .ok a := by
  cases depth with
  | zero => cases h
  | succ depth => exact ⟨depth, h⟩

end

/-! ## §2. Decoders made of others. -/

/-- The decoder takes this from some value, or reads it off some text. -/
def Decoder.Gives {α : Type} (d : Decoder α) (a : α) : Prop :=
  (∃ v, d.value v = .ok a) ∨ ∃ depth cs rest, d.text depth cs = .ok (a, rest)

namespace Decoder

variable {α β : Type} {d : Decoder α}

theorem Gives.of_andThen {f : α → Except DecodeError β} {b : β} (h : (d.andThen f).Gives b) :
    ∃ a, d.Gives a ∧ f a = .ok b := by
  rcases h with ⟨v, hv⟩ | ⟨depth, cs, rest, htext⟩
  · obtain ⟨a, ha, hb⟩ := bind_eq_ok.1 hv
    exact ⟨a, .inl ⟨v, ha⟩, hb⟩
  · obtain ⟨⟨a, rest'⟩, ha, hgo⟩ := bind_eq_ok.1 htext
    obtain ⟨b', hb', hsame⟩ := bind_eq_ok.1 hgo
    cases hsame
    exact ⟨a, .inr ⟨depth, cs, _, ha⟩, locate_eq_ok.1 hb'⟩

theorem Gives.of_map {f : α → β} {b : β} (h : (d.map f).Gives b) : ∃ a, d.Gives a ∧ f a = b := by
  obtain ⟨a, ha, hb⟩ := h.of_andThen
  exact ⟨a, ha, Except.ok.inj hb⟩

end Decoder

/-- What a field updates with, given by its decoder. -/
theorem Field.gives_update {σ α : Type} {name : String} {d : Decoder α} {set : σ → α → σ}
    {g : σ → σ} (h : (Field.defaulted name d set).update.Gives g) :
    ∃ a, d.Gives a ∧ g = fun s => set s a := by
  obtain ⟨a, ha, hg⟩ := Decoder.Gives.of_map h
  exact ⟨a, ha, hg.symm⟩

/-! ## §3. Values that are not `null`. -/

/-- Only the word `null` is read as `null`. -/
theorem readScalar_ne_null {cs rest : List Char} (hfirst : ∀ more, cs ≠ 'n' :: more) {v : Json}
    (h : Json.readScalar cs = .ok (v, rest)) : v ≠ .null := by
  rintro rfl
  unfold Json.readScalar at h
  cases cs with
  | nil => cases h
  | cons c more =>
      have hc : c ≠ 'n' := fun e => hfirst more (e ▸ rfl)
      simp only [hc, if_false] at h
      -- each of the other words and each number is read as something else
      repeat' split at h
      iterate 5
        · obtain ⟨_, _, hv⟩ := map_eq_ok.1 h
          cases hv
      · cases h

theorem readValue_ne_null {depth : Nat} {cs rest : List Char}
    (hfirst : ∀ more, Json.skipSpace cs ≠ 'n' :: more) {v : Json}
    (h : Json.readValue depth cs = .ok (v, rest)) : v ≠ .null := by
  cases depth with
  | zero =>
      unfold Json.readValue at h
      split at h
      · cases h
      · cases h
      · exact readScalar_ne_null hfirst h
  | succ depth =>
      unfold Json.readValue at h
      split at h
      · obtain ⟨_, _, hv⟩ := bind_eq_ok.1 h
        cases hv
        exact nofun
      · obtain ⟨_, _, hv⟩ := bind_eq_ok.1 h
        cases hv
        exact nofun
      · exact readScalar_ne_null hfirst h

/-- **What may be left out is not `null`** if it is there. -/
theorem ne_null_of_gives {v : Json} (h : (option value).Gives (some v)) : v ≠ .null := by
  rcases h with ⟨w, hw⟩ | ⟨depth, cs, rest, htext⟩
  · rintro rfl
    cases w <;> cases hw
  · unfold option at htext
    simp only at htext
    split at htext
    · obtain ⟨_, _, hnone⟩ := bind_eq_ok.1 htext
      cases hnone
    · next hfirst =>
        obtain ⟨⟨w, rest'⟩, hread, hsome⟩ := map_eq_ok.1 htext
        cases hsome
        exact readValue_ne_null (fun more he => hfirst more he) (liftM_eq_ok.1 hread)

/-! ## §4. Scalars, options and lists. -/

namespace Decoder

variable {α : Type} {d : Decoder α}

theorem scalar_value {expected : String} {take : Json → Option (Except DecodeError α)} {v : Json}
    {r : Except DecodeError α} (h : take v = some r) : (scalar expected take).value v = r := by
  show (take v).getD (refuse expected v) = r
  rw [h]
  rfl

/-- A scalar stands for some value. -/
theorem Gives.of_scalar {expected : String} {take : Json → Option (Except DecodeError α)} {a : α}
    (h : (scalar expected take).Gives a) : ∃ v, take v = some (.ok a) := by
  have htake {v : Json} (hv : (take v).getD (refuse expected v) = .ok a) :
      take v = some (.ok a) := by
    cases hv' : take v with
    | none =>
        rw [hv'] at hv
        cases hv
    | some r =>
        rw [hv'] at hv
        exact congrArg some hv
  rcases h with ⟨v, hv⟩ | ⟨depth, cs, rest, htext⟩
  · exact ⟨v, htake hv⟩
  · unfold scalar at htext
    simp only at htext
    split at htext
    · exact absurd htext not_refuseText
    · exact absurd htext not_refuseText
    · obtain ⟨⟨v, rest'⟩, -, hgo⟩ := bind_eq_ok.1 htext
      obtain ⟨a', ha, hsame⟩ := bind_eq_ok.1 hgo
      cases hsame
      exact ⟨v, htake (locate_eq_ok.1 ha)⟩

/-- What is there of an optional value is given by its decoder. -/
theorem Gives.of_option {a : α} (h : (option d).Gives (some a)) : d.Gives a := by
  rcases h with ⟨v, hv⟩ | ⟨depth, cs, rest, htext⟩
  · by_cases hnull : v = .null
    · subst hnull
      cases hv
    · rw [option_value hnull] at hv
      obtain ⟨a', ha, hsame⟩ := map_eq_ok.1 hv
      cases hsame
      exact .inl ⟨v, ha⟩
  · unfold option at htext
    simp only at htext
    split at htext
    · obtain ⟨_, _, hnone⟩ := bind_eq_ok.1 htext
      cases hnone
    · obtain ⟨⟨a', rest'⟩, ha, hsame⟩ := map_eq_ok.1 htext
      cases hsame
      exact .inr ⟨depth, _, rest', ha⟩

end Decoder

/-- Whatever each item keeps, reading all items of a list keeps. -/
theorem foldItems_keeps {σ : Type} {I : σ → Prop} {item : σ → List Char → Reading (σ × List Char)}
    (hitem : ∀ s cs s' rest, I s → item s cs = .ok (s', rest) → I s') (fuel : Nat) :
    ∀ {isFirst : Bool} {s s' : σ} {cs rest : List Char}, I s →
      Json.foldItems item isFirst s fuel cs = .ok (s', rest) → I s' := by
  induction fuel with
  | zero =>
      intro isFirst s s' cs rest _ h
      cases liftM_eq_ok.1 h
  | succ fuel ih =>
      intro isFirst s s' cs rest hs h
      obtain ⟨⟨more, rest'⟩, -, hgo⟩ := bind_eq_ok.1 h
      cases more with
      | false =>
          cases hgo
          exact hs
      | true =>
          obtain ⟨⟨t, rest''⟩, hread, hon⟩ := bind_eq_ok.1 hgo
          exact ih (hitem s rest' t rest'' hs hread) hon

/-- The items of a list are given by their decoder. -/
theorem Decoder.Gives.of_list {α : Type} {d : Decoder α} {as : List α} (h : (list d).Gives as) :
    ∀ a ∈ as, d.Gives a := by
  rcases h with ⟨v, hv⟩ | ⟨depth, cs, rest, htext⟩
  · cases v with
    | arr vs =>
        have hvs : vs.mapM d.value = .ok as := hv
        induction vs generalizing as with
        | nil =>
            cases hvs
            exact List.forall_mem_nil _
        | cons v vs ih =>
            rw [List.mapM_cons] at hvs
            obtain ⟨a, ha, hgo⟩ := bind_eq_ok.1 hvs
            obtain ⟨as', has, hsame⟩ := bind_eq_ok.1 hgo
            cases hsame
            exact List.forall_mem_cons.2 ⟨.inl ⟨v, ha⟩, ih has has⟩
    | _ => cases hv
  · unfold list at htext
    simp only at htext
    split at htext
    · obtain ⟨depth, hitems⟩ := nested_eq_ok htext
      obtain ⟨⟨as', rest'⟩, hfold, hsame⟩ := bind_eq_ok.1 hitems
      cases hsame
      -- the items are collected from the last one on
      have hkept : ∀ a ∈ as', d.Gives a := by
        refine foldItems_keeps (I := fun as => ∀ a ∈ as, d.Gives a)
          (fun as cs as' rest has hitem => ?_) _ (List.forall_mem_nil _) hfold
        obtain ⟨⟨a, rest'⟩, ha, hsame⟩ := bind_eq_ok.1 hitem
        cases hsame
        exact List.forall_mem_cons.2 ⟨.inr ⟨_, _, _, ha⟩, has⟩
      exact fun a ha => hkept a (List.mem_reverse.1 ha)
    · exact absurd htext not_refuseText

/-! ## §5. Shapes. -/

section

variable {σ : Type} {I : σ → Prop}

/-- Whatever each field keeps, reading all fields of an object keeps. -/
theorem foldFields_keeps {field : String → σ → List Char → Reading (σ × List Char)}
    (hfield : ∀ key s cs s' rest, I s → field key s cs = .ok (s', rest) → I s') (fuel : Nat) :
    ∀ {isFirst : Bool} {s s' : σ} {cs rest : List Char}, I s →
      Json.foldFields field isFirst s fuel cs = .ok (s', rest) → I s' := by
  induction fuel with
  | zero =>
      intro isFirst s s' cs rest _ h
      cases liftM_eq_ok.1 h
  | succ fuel ih =>
      intro isFirst s s' cs rest hs h
      obtain ⟨⟨key?, rest'⟩, -, hgo⟩ := bind_eq_ok.1 h
      cases key? with
      | none =>
          cases hgo
          exact hs
      | some key =>
          obtain ⟨⟨t, rest''⟩, hread, hon⟩ := bind_eq_ok.1 hgo
          exact ih (hfield key s rest' t rest'' hs hread) hon

end

namespace Shape

variable {σ : Type} {shape : Shape σ} {I : σ → Prop}

/-- Everything that can happen to a partial result keeps an invariant. -/
structure Keeps (shape : Shape σ) (I : σ → Prop) : Prop where
  declared : ∀ f ∈ shape.fields, ∀ g, f.update.Gives g → ∀ s, I s → I (g s)
  others : ∀ put, shape.others = .kept put → ∀ k v s, shape.field? k = none → I s → I (put k v s)

theorem Keeps.takeField (h : shape.Keeps I) {entry : String × Json} {state state' : List String × σ}
    (hs : I state.2) (htake : shape.takeField state entry = .ok state') : I state'.2 := by
  unfold Shape.takeField at htake
  simp only at htake
  cases hf : shape.field? entry.1 with
  | none =>
      simp only [hf] at htake
      cases hothers : shape.others with
      | skipped =>
          simp only [hothers, Except.ok.injEq] at htake
          rw [← htake]
          exact hs
      | kept put =>
          simp only [hothers, Except.ok.injEq] at htake
          rw [← htake]
          exact h.others put hothers _ _ _ hf hs
  | some f =>
      simp only [hf] at htake
      obtain ⟨seen, -, hgo⟩ := bind_eq_ok.1 htake
      obtain ⟨g, hg, hsame⟩ := bind_eq_ok.1 hgo
      cases hsame
      exact h.declared f (List.mem_of_find?_eq_some hf) g (.inl ⟨_, hg⟩) _ hs

theorem Keeps.foldlM (h : shape.Keeps I) (es : List (String × Json)) :
    ∀ {state state' : List String × σ}, I state.2 →
      es.foldlM shape.takeField state = .ok state' → I state'.2 := by
  induction es with
  | nil =>
      intro state state' hs hfold
      cases hfold
      exact hs
  | cons e es ih =>
      intro state state' hs hfold
      rw [List.foldlM_cons] at hfold
      obtain ⟨next, hstep, hrest⟩ := bind_eq_ok.1 hfold
      exact ih (h.takeField hs hstep) hrest

/-- Items that are left out change nothing. -/
theorem completeItems_eq_ok {s s' : σ} {count : Nat} {fs : List (Field σ)}
    (h : shape.completeItems s count fs = .ok s') : s' = s := by
  induction fs generalizing count with
  | nil =>
      cases h
      rfl
  | cons f fs ih =>
      unfold completeItems at h
      split at h
      · exact ih h
      · cases h

theorem complete_eq_ok {seen : List String} {s s' : σ} (h : shape.complete seen s = .ok s') :
    s' = s := by
  unfold complete at h
  split at h
  · cases h
  · cases h
    rfl

theorem Keeps.takeItems (h : shape.Keeps I) {total : Nat} (fs : List (Field σ))
    (hfs : fs ⊆ shape.fields) :
    ∀ {count : Nat} {vs : List Json} {s s' : σ}, I s →
      shape.takeItems total count fs vs s = .ok s' → I s' := by
  induction fs with
  | nil =>
      intro count vs s s' hs htake
      cases vs with
      | nil => exact completeItems_eq_ok htake ▸ hs
      | cons v vs => cases htake
  | cons f fs ih =>
      intro count vs s s' hs htake
      cases vs with
      | nil => exact completeItems_eq_ok htake ▸ hs
      | cons v vs =>
          obtain ⟨hf, hrest⟩ := List.cons_subset.1 hfs
          obtain ⟨g, hg, hgo⟩ := bind_eq_ok.1 htake
          exact ih hrest (h.declared f hf g (.inl ⟨v, hg⟩) s hs) hgo

theorem Keeps.take (h : shape.Keeps I) {start s : σ} (hstart : I start) {v : Json}
    (htake : shape.take start v = .ok s) : I s := by
  cases v with
  | obj es =>
      obtain ⟨⟨seen, t⟩, hfold, hcomplete⟩ := bind_eq_ok.1 htake
      rw [complete_eq_ok hcomplete]
      exact h.foldlM es hstart hfold
  | arr vs =>
      unfold Shape.take at htake
      simp only at htake
      split at htake
      · exact h.takeItems shape.fields (List.Subset.refl _) hstart htake
      · cases htake
  | _ => cases htake

theorem Keeps.readField (h : shape.Keeps I) {depth : Nat} {key : String}
    {state state' : List String × σ} {cs rest : List Char} (hs : I state.2)
    (hread : shape.readField depth key state cs = .ok (state', rest)) : I state'.2 := by
  unfold Shape.readField at hread
  simp only at hread
  cases hf : shape.field? key with
  | none =>
      simp only [hf] at hread
      obtain ⟨cs', -, hgo⟩ := bind_eq_ok.1 hread
      cases hothers : shape.others with
      | skipped =>
          simp only [hothers] at hgo
          obtain ⟨_, _, hsame⟩ := bind_eq_ok.1 hgo
          cases hsame
          exact hs
      | kept put =>
          simp only [hothers] at hgo
          obtain ⟨⟨v, rest'⟩, -, hsame⟩ := bind_eq_ok.1 hgo
          cases hsame
          exact h.others put hothers _ _ _ hf hs
  | some f =>
      simp only [hf] at hread
      obtain ⟨seen, -, hgo⟩ := bind_eq_ok.1 hread
      obtain ⟨cs', -, hgo⟩ := bind_eq_ok.1 hgo
      obtain ⟨⟨g, rest'⟩, hg, hsame⟩ := bind_eq_ok.1 hgo
      cases hsame
      exact h.declared f (List.mem_of_find?_eq_some hf) g (.inr ⟨depth, cs', _, hg⟩) _ hs

theorem Keeps.readItems (h : shape.Keeps I) {depth : Nat} (fs : List (Field σ))
    (hfs : fs ⊆ shape.fields) :
    ∀ {count : Nat} {s s' : σ} {cs rest : List Char}, I s →
      shape.readItems depth count fs s cs = .ok (s', rest) → I s' := by
  induction fs with
  | nil =>
      intro count s s' cs rest hs hread
      obtain ⟨_, _, hsame⟩ := bind_eq_ok.1 hread
      cases hsame
      exact hs
  | cons f fs ih =>
      intro count s s' cs rest hs hread
      obtain ⟨⟨more, rest'⟩, -, hgo⟩ := bind_eq_ok.1 hread
      cases more with
      | false =>
          obtain ⟨t, hcomplete, hsame⟩ := bind_eq_ok.1 hgo
          cases hsame
          exact completeItems_eq_ok (locate_eq_ok.1 hcomplete) ▸ hs
      | true =>
          obtain ⟨hf, hrest⟩ := List.cons_subset.1 hfs
          obtain ⟨⟨g, rest''⟩, hg, hon⟩ := bind_eq_ok.1 hgo
          exact ih hrest (h.declared f hf g (.inr ⟨depth, rest', rest'', hg⟩) s hs) hon

theorem Keeps.read (h : shape.Keeps I) {start s : σ} (hstart : I start) {depth : Nat}
    {cs rest : List Char} (hread : shape.read start depth cs = .ok (s, rest)) : I s := by
  unfold Shape.read at hread
  split at hread
  · obtain ⟨depth, hobject⟩ := nested_eq_ok hread
    obtain ⟨⟨⟨seen, t⟩, rest'⟩, hfold, hgo⟩ := bind_eq_ok.1 hobject
    obtain ⟨t', hcomplete, hsame⟩ := bind_eq_ok.1 hgo
    cases hsame
    rw [complete_eq_ok (locate_eq_ok.1 hcomplete)]
    exact foldFields_keeps (I := fun state => I state.2)
      (fun _ _ _ _ _ hs hfield => h.readField hs hfield) _ hstart hfold
  · split at hread
    · obtain ⟨depth, hitems⟩ := nested_eq_ok hread
      exact h.readItems shape.fields (List.Subset.refl _) hstart hitems
    · unfold refuseItems at hread
      split at hread
      · cases locate_eq_ok.1 hread
      · obtain ⟨depth, hrefused⟩ := nested_eq_ok hread
        unfold locateInList at hrefused
        split at hrefused <;> cases locate_eq_ok.1 hrefused
  · exact absurd hread not_refuseText

/-- **What the start has and everything keeps**, everything has that is given. -/
theorem Keeps.of_gives (h : shape.Keeps I) {start s : σ} (hstart : I start)
    (hgives : (shape.decode start).Gives s) : I s := by
  rcases hgives with ⟨v, htake⟩ | ⟨depth, cs, rest, hread⟩
  · exact h.take hstart htake
  · exact h.read hstart hread

end Shape

end ConnectionRelay.Wire
