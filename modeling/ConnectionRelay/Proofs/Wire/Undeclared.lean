/-
  ConnectionRelay.Proofs.Wire.Undeclared
  ──────────────────────────────────────
  **OBJECTS WHOSE FIELDS ARE NOT ALL DECLARED.**

  An object with undeclared fields is no record of the shape it is read by.  It is read if
  its names are different, each declared field of it is read and none is missing.  What was
  read is told part by part: by the declared field that owns the part (`Says`), or by the
  undeclared fields if these are kept in it (`Collects`).  Main statements:

    • `exists_take` — when such an object is read,
    • `Collects.take_kept` — the undeclared fields are kept, in their order,
    • `Says.optional`, `Says.there` — a field that was written says what was written.
-/
import ConnectionRelay.Proofs.Wire.Gives

namespace ConnectionRelay

/-- The keys of sorted entries are different. -/
theorem Entries.nodup_of_sorted {α : Type} {es : List (String × α)} (h : Entries.Sorted es) :
    (es.map Prod.fst).Nodup := by
  refine List.Pairwise.map Prod.fst (fun e f hlt heq => ?_) h
  exact String.lt_irrefl _ (heq ▸ hlt)

namespace Wire

variable {σ γ α : Type}

/-! ## §1. Parts of the result. -/

/-- What is set of a decoded value leaves a part of the result alone if setting does. -/
theorem Field.leaves {part : σ → γ} {d : Decoder α} {set : σ → α → σ} {v : Json} {g : σ → σ}
    {s : σ} (hg : (d.map fun a s => set s a).value v = .ok g)
    (hset : ∀ s a, part (set s a) = part s) : part (g s) = part s := by
  obtain ⟨a, -, hsame⟩ := bind_eq_ok.1 hg
  cases hsame
  exact hset s a

theorem Decoder.value_map {d : Decoder α} {β : Type} {f : α → β} {v : Json} {a : α}
    (h : d.value v = .ok a) : (d.map f).value v = .ok (f a) :=
  bind_eq_ok.2 ⟨a, h, rfl⟩

namespace Shape

variable {shape : Shape σ}

/-- An optional field that was written or left out says what was written. -/
theorem Says.optional {name : String} {d : Decoder α} {set : σ → Option α → σ}
    {part : σ → Option α} {start s : σ} {o : Option α} {enc : α → Json}
    (hset : ∀ s o, part (set s o) = o) (hstart : part start = none)
    (hvalue : ∀ a, o = some a → d.value (enc a) = .ok a ∧ enc a ≠ .null)
    (h : Says (.optional name d set) part start s (o.map enc)) : part s = o := by
  cases o with
  | none => exact h.trans hstart
  | some a =>
      obtain ⟨hread, hnull⟩ := hvalue a rfl
      obtain ⟨g, s₀, hg, hs⟩ := h
      obtain ⟨o, ho, rfl⟩ := Field.update_defaulted hg
      rw [option_value hnull, hread] at ho
      cases ho
      rw [hs]
      exact hset s₀ (some a)

/-- A field that is there says what was written. -/
theorem Says.there {f : Field σ} {d : Decoder α} {set : σ → α → σ} {part : σ → α} {start s : σ}
    {v : Json} {a : α} (h : Says f part start s (some v)) (hf : f.update = d.map fun a s => set s a)
    (hset : ∀ s a, part (set s a) = a) (hread : d.value v = .ok a) : part s = a := by
  obtain ⟨g, s₀, hg, hs⟩ := h
  rw [hf, Decoder.value_map hread] at hg
  cases hg
  rw [hs]
  exact hset s₀ a

/-! ## §2. What is kept. -/

/-- The fields that are not declared. -/
def undeclared (shape : Shape σ) (es : List (String × Json)) : List (String × Json) :=
  es.filter fun e => (shape.field? e.1).isNone

/-- A part of the result that holds the undeclared fields, and what keeping one of them does
to it. -/
structure Collects (shape : Shape σ) (part : σ → γ) (keep : γ → String × Json → γ) : Prop where
  declared : ∀ f ∈ shape.fields, ∀ v g s, f.update.value v = .ok g → part (g s) = part s
  kept : ∃ put, shape.others = .kept put ∧ ∀ k v s, part (put k v s) = keep (part s) (k, v)

variable {part : σ → γ} {keep : γ → String × Json → γ}

theorem Collects.takeField (h : shape.Collects part keep) {entry : String × Json}
    {seen seen' : List String} {s s' : σ}
    (htake : shape.takeField (seen, s) entry = .ok (seen', s')) :
    part s' = (shape.undeclared [entry]).foldl keep (part s) := by
  unfold Shape.takeField at htake
  simp only at htake
  cases hf : shape.field? entry.1 with
  | none =>
      obtain ⟨put, hothers, hput⟩ := h.kept
      simp only [hf, hothers, Except.ok.injEq, Prod.mk.injEq] at htake
      rw [← htake.2, hput]
      simp [undeclared, hf]
  | some f =>
      simp only [hf] at htake
      obtain ⟨met, -, hgo⟩ := bind_eq_ok.1 htake
      obtain ⟨g, hg, hsame⟩ := bind_eq_ok.1 hgo
      cases hsame
      rw [h.declared f (List.mem_of_find?_eq_some hf) _ _ _ hg]
      simp [undeclared, hf]

theorem Collects.foldlM (h : shape.Collects part keep) (es : List (String × Json)) :
    ∀ {seen seen' : List String} {s s' : σ},
      es.foldlM shape.takeField (seen, s) = .ok (seen', s') →
      part s' = (shape.undeclared es).foldl keep (part s) := by
  induction es with
  | nil =>
      intro seen seen' s s' hfold
      cases hfold
      rfl
  | cons e es ih =>
      intro seen seen' s s' hfold
      rw [List.foldlM_cons] at hfold
      obtain ⟨⟨seen₁, s₁⟩, hstep, hrest⟩ := bind_eq_ok.1 hfold
      have happend : shape.undeclared (e :: es) = shape.undeclared [e] ++ shape.undeclared es :=
        List.filter_append [e] es
      rw [ih hrest, h.takeField hstep, happend, List.foldl_append]

/-- **The undeclared fields are kept**, in the order in which they stand. -/
theorem Collects.take_kept (h : shape.Collects part keep) {es : List (String × Json)}
    {start s : σ} (htake : shape.take start (.obj es) = .ok s) :
    part s = (shape.undeclared es).foldl keep (part start) := by
  obtain ⟨⟨seen, t⟩, hfold, hcomplete⟩ := bind_eq_ok.1 htake
  rw [complete_eq_ok hcomplete]
  exact h.foldlM es hfold

/-! ## §3. When it is read. -/

/-- If there is a declared field of this name, it is read from this value. -/
def Accepts (shape : Shape σ) (e : String × Json) : Prop :=
  ∀ f, shape.field? e.1 = some f → ∃ g, f.update.value e.2 = .ok g

theorem accepts_undeclared {name : String} (h : shape.field? name = none) (v : Json) :
    shape.Accepts (name, v) := by
  intro f hf
  cases h.symm.trans hf

theorem accepts_declared {name : String} {f : Field σ} {v : Json} {g : σ → σ}
    (h : shape.field? name = some f) (hg : f.update.value v = .ok g) : shape.Accepts (name, v) := by
  intro f' hf
  cases h.symm.trans hf
  exact ⟨g, hg⟩

theorem accepts_optional {name : String} {d : Decoder α} {set : σ → Option α → σ} {v : Json} {a : α}
    (h : shape.field? name = some (.optional name d set)) (hread : d.value v = .ok a)
    (hnull : v ≠ .null) : shape.Accepts (name, v) := by
  have hoption : (option d).value v = .ok (some a) := by
    rw [option_value hnull, hread]
    rfl
  exact accepts_declared h (Decoder.value_map hoption)

/-- The fields of a record are read if what stands in each slot is. -/
theorem accepts_present {fields : List (String × Option Json)}
    (h : ∀ f ∈ fields, ∀ v, f.2 = some v → shape.Accepts (f.1, v)) :
    ∀ e ∈ Json.present fields, shape.Accepts e := by
  intro e he
  obtain ⟨f, hf, hsome⟩ := List.mem_filterMap.1 he
  obtain ⟨v, hv, rfl⟩ := Option.map_eq_some_iff.1 hsome
  exact h f hf v hv

theorem exists_takeField {e : String × Json} (haccepts : shape.Accepts e) {seen : List String}
    (hnew : e.1 ∉ seen) (s : σ) :
    ∃ seen' s', shape.takeField (seen, s) e = .ok (seen', s')
      ∧ (seen' = seen ∧ shape.field? e.1 = none ∨ seen' = e.1 :: seen) := by
  unfold Shape.takeField
  cases hf : shape.field? e.1 with
  | none =>
      cases shape.others with
      | skipped => exact ⟨seen, s, rfl, .inl ⟨rfl, rfl⟩⟩
      | kept put => exact ⟨seen, put e.1 e.2 s, rfl, .inl ⟨rfl, rfl⟩⟩
  | some f =>
      obtain ⟨g, hg⟩ := haccepts f hf
      have hmeet : shape.meet e.1 seen = .ok (e.1 :: seen) := by
        simp [meet, hnew]
      simp only [hmeet, hg]
      exact ⟨e.1 :: seen, g s, rfl, .inr rfl⟩

theorem exists_foldlM (es : List (String × Json)) :
    ∀ (seen : List String) (s : σ), (es.map Prod.fst).Nodup → (∀ e ∈ es, shape.Accepts e) →
      (∀ e ∈ es, e.1 ∉ seen) →
      ∃ seen' s', es.foldlM shape.takeField (seen, s) = .ok (seen', s') ∧ (∀ n ∈ seen, n ∈ seen')
        ∧ ∀ e ∈ es, shape.field? e.1 ≠ none → e.1 ∈ seen' := by
  induction es with
  | nil => exact fun seen s _ _ _ => ⟨seen, s, rfl, fun _ h => h, List.forall_mem_nil _⟩
  | cons e es ih =>
      intro seen s hnodup haccepts hnew
      obtain ⟨hname, hrest⟩ := List.nodup_cons.1 hnodup
      obtain ⟨hfirst, hothers⟩ := List.forall_mem_cons.1 haccepts
      obtain ⟨hfresh, hlater⟩ := List.forall_mem_cons.1 hnew
      obtain ⟨seen₁, s₁, hstep, hseen⟩ := exists_takeField hfirst hfresh s
      have hstill : ∀ f ∈ es, f.1 ∉ seen₁ := by
        intro f hf hmem
        rcases hseen with ⟨rfl, -⟩ | rfl
        · exact hlater f hf hmem
        rcases List.mem_cons.1 hmem with heq | hold
        · exact hname (List.mem_map.2 ⟨f, hf, heq⟩)
        · exact hlater f hf hold
      obtain ⟨seen', s', hfold, hold, hthere⟩ := ih seen₁ s₁ hrest hothers hstill
      refine ⟨seen', s', ?_, fun n hn => ?_, List.forall_mem_cons.2 ⟨fun hdeclared => ?_, hthere⟩⟩
      · rw [List.foldlM_cons, hstep]
        exact hfold
      · rcases hseen with ⟨rfl, -⟩ | rfl
        · exact hold n hn
        · exact hold n (List.mem_cons_of_mem _ hn)
      · rcases hseen with ⟨-, hnone⟩ | rfl
        · exact absurd hnone hdeclared
        · exact hold _ List.mem_cons_self

/-- **An object is read** if its names are different, each declared field of it is read, and
every field that is needed is there. -/
theorem exists_take {es : List (String × Json)} (start : σ) (hnodup : (es.map Prod.fst).Nodup)
    (haccepts : ∀ e ∈ es, shape.Accepts e)
    (hneeded : ∀ f ∈ shape.fields, f.omissible = false → f.name ∈ es.map Prod.fst) :
    ∃ s, shape.take start (.obj es) = .ok s := by
  obtain ⟨seen, s, hfold, -, hthere⟩ :=
    exists_foldlM es [] start hnodup haccepts fun _ _ => by simp
  have hmissing : shape.missing? seen = none := by
    refine missing?_eq_none_iff.2 fun f hf hom => ?_
    obtain ⟨e, he, hname⟩ := List.mem_map.1 (hneeded f hf hom)
    have hdeclared : shape.field? e.1 ≠ none := by
      rw [field?, ne_eq, List.find?_eq_none]
      exact fun hnot => hnot f hf (by simp [hname])
    exact hname ▸ hthere e he hdeclared
  refine ⟨s, ?_⟩
  simp only [take, hfold, bind, Except.bind, complete, hmissing]

end Shape

end Wire

end ConnectionRelay
