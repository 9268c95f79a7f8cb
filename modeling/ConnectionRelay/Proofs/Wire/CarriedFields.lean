/-
  ConnectionRelay.Proofs.Wire.CarriedFields
  ─────────────────────────────────────────
  **WHAT IS NOT TYPED IS CARRIED THROUGH.**

  A resource types two fields of its spec and carries the others.  What is written of a
  resource that was read is told against its document, field by field: a carried field is
  there with its value, `null` or not, a typed one is there if the document has more than
  `null` for it, and nothing else is there.  When the destination is changed, this one field of
  the written resource changes.  Main statements:

    • `Shape.exists_of_needed` — an object that was read has the fields that are needed,
    • `Resource.type_of_decode`, `status_of_decode`, `metadata_of_decode` — the parts of a
      resource that was read,
    • `ConnectionSpec.get?_of_decode` — the fields that are written of a spec that was read,
    • `carried_through` — all this for a resource, and what changing its destination does.
-/
import ConnectionRelay.Proofs.Pipeline.Contributions
import ConnectionRelay.Proofs.Wire.RoundTrip

namespace ConnectionRelay

open Wire

/-! ## §1. Fields of objects. -/

/-- Entries with other names are not looked at. -/
theorem Entries.find?_filter {α : Type} {p : String → Bool} {k : String} (h : p k = true)
    (es : List (String × α)) : find? k (es.filter fun e => p e.1) = find? k es := by
  induction es with
  | nil => rfl
  | cons e es ih =>
      by_cases hk : e.1 = k
      · rw [List.filter_cons_of_pos (by rw [hk]; exact h), find?, find?, if_pos hk, if_pos hk]
      · rw [find?, if_neg hk, ← ih, List.filter_cons]
        split
        · rw [find?, if_neg hk]
        · rfl

namespace Json

/-- The fields of an object as a table; of repeated fields the last one counts. -/
def table (v : Json) : Dict Json := .ofList v.fields

theorem table_ofDict (d : Dict Json) : (ofDict d).table = d := d.empty_merge

end Json

/-- Entries with other names do not matter for a table. -/
theorem Dict.get?_ofList_filter {α : Type} {p : String → Bool} {k : String} (h : p k = true)
    (es : List (String × α)) : (Dict.ofList (es.filter fun e => p e.1)).get? k
      = (Dict.ofList es).get? k := by
  unfold Dict.ofList
  rw [get?_insertMany, get?_insertMany, lastValue, lastValue, ← List.filter_reverse,
    Entries.find?_filter h]

/-- Set a key to a value, or take it out. -/
def Dict.assign {α : Type} (d : Dict α) (k : String) : Option α → Dict α
  | some v => d.insert k v
  | none => d.erase k

theorem Dict.get?_assign {α : Type} (d : Dict α) (k q : String) (o : Option α) :
    (d.assign k o).get? q = if q = k then o else d.get? q := by
  cases o with
  | none => exact Dict.get?_erase d k q
  | some v => exact Dict.get?_insert d k q v

/-! ## §2. What an object says that was read. -/

namespace Wire

theorem text_value_eq_ok {v : Json} {s : String} (h : text.value v = .ok s) : v = .str s := by
  cases v <;> cases h
  rfl

variable {σ α : Type}

/-- What is written again of a field that was read and may be left out. -/
def rewritten (d : Decoder α) (enc : α → Json) (v : Json) : Option Json :=
  ((option d).value v).toOption.join.map enc

theorem rewritten_of_value {d : Decoder α} {enc : α → Json} {v : Json} {o : Option α}
    (h : (option d).value v = .ok o) : rewritten d enc v = o.map enc := by
  rw [rewritten, h]
  rfl

namespace Shape

variable {shape : Shape σ} {name : String} {part : σ → α} {start s : σ} {f : Field σ}

/-- A field that is there was read by its decoder. -/
theorem Says.value {d : Decoder α} {set : σ → α → σ} {v : Json}
    (hf : f.update = d.map fun a s => set s a) (hset : ∀ s a, part (set s a) = a)
    (h : Says f part start s (some v)) : d.value v = .ok (part s) := by
  obtain ⟨g, s₀, hg, hs⟩ := h
  rw [hf] at hg
  obtain ⟨a, ha, hsame⟩ := bind_eq_ok.1 hg
  cases hsame
  rw [ha, hs, hset]

/-- A field that may be left out was read, as `null` where it is not there. -/
theorem Says.option_value {part : σ → Option α} {d : Decoder α} {set : σ → Option α → σ}
    {fs : List (String × Json)} (hset : ∀ s o, part (set s o) = o) (hstart : part start = none)
    (h : Says (.optional name d set) part start s (Entries.find? name fs)) :
    (option d).value ((Json.obj fs).field name) = .ok (part s) := by
  show (option d).value ((Entries.find? name fs).getD .null) = _
  cases hfind : Entries.find? name fs with
  | none =>
      rw [hfind] at h
      rw [show part s = none from h.trans hstart]
      rfl
  | some v =>
      rw [hfind] at h
      exact h.value rfl hset

/-- A field that is taken meets no other name. -/
theorem mem_of_takeField {e : String × Json} {seen met : List String}
    (h : shape.takeField (seen, start) e = .ok (met, s)) : ∀ n ∈ met, n ∈ seen ∨ e.1 = n := by
  unfold takeField at h
  simp only at h
  cases hf : shape.field? e.1 with
  | none =>
      cases hothers : shape.others <;>
        · simp only [hf, hothers, Except.ok.injEq, Prod.mk.injEq] at h
          exact fun n hn => .inl (h.1 ▸ hn)
  | some f =>
      simp only [hf] at h
      obtain ⟨seen', hmeet, hgo⟩ := bind_eq_ok.1 h
      obtain ⟨g, -, hsame⟩ := bind_eq_ok.1 hgo
      cases hsame
      unfold meet at hmeet
      split at hmeet
      · cases hmeet
      · cases hmeet
        exact fun n hn => (List.mem_cons.1 hn).symm.imp id Eq.symm

/-- Only names of fields are met. -/
theorem mem_of_seen (fs : List (String × Json)) :
    ∀ {seen seen' : List String} {s s' : σ},
      fs.foldlM shape.takeField (seen, s) = .ok (seen', s') →
      ∀ n ∈ seen', n ∈ seen ∨ ∃ e ∈ fs, e.1 = n := by
  induction fs with
  | nil =>
      intro seen seen' s s' h n hn
      cases h
      exact .inl hn
  | cons e fs ih =>
      intro seen seen' s s' h n hn
      rw [List.foldlM_cons] at h
      obtain ⟨⟨met, s₁⟩, hstep, hrest⟩ := bind_eq_ok.1 h
      rcases ih hrest n hn with hmet | ⟨g, hg, hname⟩
      · exact (mem_of_takeField hstep n hmet).imp id fun hname => ⟨e, List.mem_cons_self, hname⟩
      · exact .inr ⟨g, List.mem_cons_of_mem _ hg, hname⟩

/-- **A field that is needed** is there in every object that was read. -/
theorem exists_of_needed {fs : List (String × Json)} (h : shape.take start (.obj fs) = .ok s)
    (hf : f ∈ shape.fields) (hneeded : f.omissible = false) :
    ∃ v, Entries.find? f.name fs = some v := by
  obtain ⟨⟨seen, t⟩, hfold, hcomplete⟩ := bind_eq_ok.1 h
  have hseen : f.name ∈ seen := by
    simp only [complete] at hcomplete
    split at hcomplete
    · cases hcomplete
    · next hmissing => exact missing?_eq_none_iff.1 hmissing f hf hneeded
  obtain hnil | ⟨e, he, hname⟩ := mem_of_seen fs hfold _ hseen
  · cases hnil
  · refine Option.ne_none_iff_exists'.1 fun hnone => ?_
    exact Entries.find?_eq_none_iff.1 hnone e he hname

end Shape

end Wire

/-! ## §3. Specs. -/

namespace ConnectionSpec

/-- What is written of a field of a spec that was read: the field as it is, or what was
understood of a typed one. -/
def rewrittenField (v : Json) (k : String) : Option Json :=
  if k = "publishConnectionDetailsTo" then
    rewritten Destination.decode Destination.toJson (v.field k)
  else if k = "writeConnectionSecretToRef" then
    rewritten SecretReference.decode SecretReference.toJson (v.field k)
  else v.table.get? k

variable {v : Json} {s : ConnectionSpec} {k : String}

/-- The destination of a spec that was read. -/
theorem destination_value (h : decode.value v = .ok s) :
    (option Destination.decode).value (v.field "publishConnectionDetailsTo")
      = .ok s.destination := by
  have hobj := Shape.obj_of_take rfl h
  rw [hobj] at h ⊢
  have hread := Shape.take_says_unrepeated owns_destination spares_destination rfl rfl h
  exact hread.option_value (fun _ _ => rfl) rfl

/-- The secret reference of a spec that was read. -/
theorem secretRef_value (h : decode.value v = .ok s) :
    (option SecretReference.decode).value (v.field "writeConnectionSecretToRef")
      = .ok s.secretRef := by
  have hobj := Shape.obj_of_take rfl h
  rw [hobj] at h ⊢
  have hread := Shape.take_says_unrepeated owns_secretRef spares_secretRef rfl rfl h
  exact hread.option_value (fun _ _ => rfl) rfl

/-- **The fields that are written of a spec that was read.** -/
theorem get?_of_decode (h : decode.value v = .ok s) (k : String) :
    s.toDict.get? k = rewrittenField v k := by
  have hapart : s.Apart := apart_of_gives (.inl ⟨v, h⟩)
  unfold rewrittenField
  by_cases hdestination : k = "publishConnectionDetailsTo"
  · subst hdestination
    rw [if_pos rfl, hapart.get?_destination, rewritten_of_value (destination_value h)]
  by_cases hsecretRef : k = "writeConnectionSecretToRef"
  · subst hsecretRef
    rw [if_neg hdestination, if_pos rfl, hapart.get?_secretRef,
      rewritten_of_value (secretRef_value h)]
  -- any other field is carried, the last one if it is repeated
  have hundeclared : (shape.field? k).isNone = true := by
    rw [Option.isNone_iff_eq_none]
    exact Decidable.byContradiction fun hne =>
      (field?_ne_none_iff.1 hne).elim hdestination hsecretRef
  rw [Shape.obj_of_take rfl h] at h
  have hfields : s.fields = Dict.ofList (shape.undeclared v.fields) := collects_fields.take_kept h
  rw [if_neg hdestination, if_neg hsecretRef, get?_toDict, if_neg hdestination, if_neg hsecretRef,
    Option.or_none, hfields]
  exact Dict.get?_ofList_filter (p := fun k => (shape.field? k).isNone) hundeclared v.fields

/-- A typed field is written if the document has more than `null` for it. -/
theorem contains_of_decode (h : decode.value v = .ok s)
    (hk : k = "publishConnectionDetailsTo" ∨ k = "writeConnectionSecretToRef") :
    s.toDict.contains k = true ↔ v.field k ≠ .null := by
  have hapart : s.Apart := apart_of_gives (.inl ⟨v, h⟩)
  unfold Dict.contains
  rcases hk with rfl | rfl
  · rw [hapart.get?_destination, Option.isSome_map, Option.isSome_iff_ne_none]
    exact not_congr (option_eq_none_iff (destination_value h))
  · rw [hapart.get?_secretRef, Option.isSome_map, Option.isSome_iff_ne_none]
    exact not_congr (option_eq_none_iff (secretRef_value h))

/-- Changing the destination of a spec changes this field. -/
theorem Apart.toDict_redirected (h : s.Apart) (d : Option Destination) :
    { s with destination := d }.toDict
      = s.toDict.assign "publishConnectionDetailsTo" (d.map Destination.toJson) := by
  have hnone : s.fields.get? "publishConnectionDetailsTo" = none :=
    h _ (field?_ne_none_iff.2 (.inl rfl))
  refine Dict.ext fun k => ?_
  rw [Dict.get?_assign, get?_toDict, get?_toDict]
  by_cases hk : k = "publishConnectionDetailsTo"
  · rw [if_pos hk, if_pos hk, hk, hnone, Option.none_or]
  · rw [if_neg hk, if_neg hk, if_neg hk]

end ConnectionSpec

/-! ## §4. Resources. -/

namespace Resource

variable {v : Json} {r : Resource}

/-- The parts that a resource was read by. -/
theorem exists_parts_of_decode (h : decode.value v = .ok r) :
    ∃ p, v = .obj v.fields ∧ shape.take {} (.obj v.fields) = .ok p
      ∧ typeShape.take ⟨"", ""⟩ (.obj p.others) = .ok r.type
      ∧ p.metadata = r.metadata ∧ p.spec = r.spec ∧ p.status = r.status := by
  obtain ⟨p, htake, hgo⟩ := bind_eq_ok.1 h
  obtain ⟨type, htype, hsame⟩ := bind_eq_ok.1 hgo
  cases hsame
  have hobj := Shape.obj_of_take rfl htake
  exact ⟨p, hobj, hobj ▸ htake, htype, rfl, rfl, rfl⟩

theorem owns_apiVersion : typeShape.Owns TypeReference.apiVersion "apiVersion" :=
  List.forall_mem_cons.2 ⟨fun hne => absurd rfl hne, List.forall_mem_singleton.2
    fun _ _ _ _ hg => Field.leaves hg fun _ _ => rfl⟩

theorem owns_kind : typeShape.Owns TypeReference.kind "kind" :=
  List.forall_mem_cons.2 ⟨fun _ _ _ _ hg => Field.leaves hg fun _ _ => rfl,
    List.forall_mem_singleton.2 fun hne => absurd rfl hne⟩

/-- The type that was read is the one that stands among the fields. -/
theorem find?_of_typeShape {es : List (String × Json)} {type : TypeReference}
    (h : typeShape.take ⟨"", ""⟩ (.obj es) = .ok type) :
    Entries.find? "apiVersion" es = some (.str type.apiVersion)
      ∧ Entries.find? "kind" es = some (.str type.kind) := by
  obtain ⟨v, hv⟩ := Shape.exists_of_needed h List.mem_cons_self rfl
  obtain ⟨k, hk⟩ := Shape.exists_of_needed h (List.mem_cons_of_mem _ List.mem_cons_self) rfl
  have hversion :=
    Shape.take_says_unrepeated owns_apiVersion (Shape.spares_of_skipped rfl) rfl rfl h
  have hkind := Shape.take_says_unrepeated owns_kind (Shape.spares_of_skipped rfl) rfl rfl h
  rw [show Entries.find? "apiVersion" es = some v from hv] at hversion ⊢
  rw [show Entries.find? "kind" es = some k from hk] at hkind ⊢
  rw [text_value_eq_ok (hversion.value rfl fun _ _ => rfl),
    text_value_eq_ok (hkind.value rfl fun _ _ => rfl)]
  exact ⟨rfl, rfl⟩

theorem others_of_take {fs : List (String × Json)} {p : Partial}
    (h : shape.take {} (.obj fs) = .ok p) : p.others = shape.undeclared fs := by
  rw [collects_others.take_kept h, List.foldl_append_eq_append, ← List.flatMap_def,
    List.flatMap_singleton']
  rfl

/-- **The type of a resource** stands in its document. -/
theorem type_of_decode (h : decode.value v = .ok r) :
    Entries.find? "apiVersion" v.fields = some (.str r.type.apiVersion)
      ∧ Entries.find? "kind" v.fields = some (.str r.type.kind) := by
  obtain ⟨p, -, htake, htype, -, -, -⟩ := exists_parts_of_decode h
  have hfound := find?_of_typeShape htype
  rw [others_of_take htake] at hfound
  have hundeclared {k : String} (hk : (shape.field? k).isNone = true) :
      Entries.find? k (shape.undeclared v.fields) = Entries.find? k v.fields :=
    Entries.find?_filter (p := fun k => (shape.field? k).isNone) hk v.fields
  rwa [hundeclared rfl, hundeclared rfl] at hfound

/-- **The status of a resource** is what its document has, unless this is `null`. -/
theorem status_of_decode (h : decode.value v = .ok r) : r.status = (v.field "status").present? := by
  obtain ⟨p, hobj, htake, -, -, -, hstatus⟩ := exists_parts_of_decode h
  have hread := (Shape.take_says_unrepeated owns_status (spares fun _ _ => rfl) rfl rfl
    htake).option_value (fun _ _ => rfl) rfl
  rw [← hobj, hstatus] at hread
  have hvalue : ∀ w : Json, (option value).value w = .ok w.present? := by
    intro w
    cases w <;> rfl
  exact Except.ok.inj (hread.symm.trans (hvalue _))

/-- **The metadata of a resource** is read of what its document has. -/
theorem metadata_of_decode (h : decode.value v = .ok r) {m : Json}
    (hm : Entries.find? "metadata" v.fields = some m) :
    Cluster.ObjectMeta.decode.value m = .ok r.metadata := by
  obtain ⟨p, -, htake, -, hmetadata, -, -⟩ := exists_parts_of_decode h
  have hread := Shape.take_says_unrepeated owns_metadata (spares fun _ _ => rfl) rfl rfl htake
  rw [hm] at hread
  rw [← hmetadata]
  exact hread.value rfl fun _ _ => rfl

/-- The spec of a resource is read of what its document has, and is empty if this has none. -/
theorem spec_cases_of_decode (h : decode.value v = .ok r) :
    v.field "spec" = .null ∧ r.spec = {}
      ∨ ConnectionSpec.decode.value (v.field "spec") = .ok r.spec := by
  obtain ⟨p, hobj, htake, -, -, hspec, -⟩ := exists_parts_of_decode h
  have hread := Shape.take_says_unrepeated owns_spec spares_spec rfl rfl htake
  have hfield : v.field "spec" = (Entries.find? "spec" v.fields).getD .null := by
    rw [hobj]
    rfl
  rw [hfield, ← hspec]
  cases hfind : Entries.find? "spec" v.fields with
  | none =>
      rw [hfind] at hread
      exact .inl ⟨rfl, hread⟩
  | some w =>
      rw [hfind] at hread
      exact .inr (hread.value rfl fun _ _ => rfl)

/-- **The fields of the spec** that are written of a resource that was read. -/
theorem spec_of_decode (h : decode.value v = .ok r) (k : String) :
    r.spec.toDict.get? k = ConnectionSpec.rewrittenField (v.field "spec") k := by
  rcases spec_cases_of_decode h with ⟨hnull, hempty⟩ | hspec
  · rw [hnull, hempty, ConnectionSpec.get?_toDict, ConnectionSpec.rewrittenField]
    rfl
  · exact ConnectionSpec.get?_of_decode hspec k

theorem contains_of_decode (h : decode.value v = .ok r) {k : String}
    (hk : k = "publishConnectionDetailsTo" ∨ k = "writeConnectionSecretToRef") :
    r.spec.toDict.contains k = true ↔ (v.field "spec").field k ≠ .null := by
  rcases spec_cases_of_decode h with ⟨hnull, hempty⟩ | hspec
  · rw [hnull, hempty]
    rcases hk with rfl | rfl <;> exact iff_of_false nofun fun hne => hne rfl
  · exact ConnectionSpec.contains_of_decode hspec hk

theorem field_spec (r : Resource) : r.toJson.field "spec" = r.spec.toJson :=
  @Json.field_record r.written "spec" (some r.spec.toJson) r.inOrder_written.nodup
    (by simp [written])

theorem find?_status (r : Resource) : Entries.find? "status" r.toJson.fields = r.status :=
  @Json.find?_present r.written "status" r.status r.inOrder_written.nodup (by simp [written])

/-- **The destination alone is changed** in the written resource. -/
theorem toJson_redirected (h : r.Writable) (d : Option Destination) :
    (r.withDestination d).toJson = r.toJson.setField "spec" (.ofDict
      ((r.toJson.field "spec").table.assign "publishConnectionDetailsTo"
        (d.map Destination.toJson))) := by
  -- the spec has its slot between the metadata and the status
  have horder : Json.InOrder ([("apiVersion", some (.str r.type.apiVersion)),
        ("kind", some (.str r.type.kind)), ("metadata", some r.metadata.toJson)]
      ++ ("spec", some r.spec.toJson) :: [("status", r.status)]) := r.inOrder_written
  have htable : r.spec.toJson.table = r.spec.toDict := Json.table_ofDict _
  rw [field_spec, htable, ← h.spec.toDict_redirected d]
  exact (Json.put_record horder _).symm

end Resource

/-- **What is not typed is carried through.**  Whatever object a resource was read from, the
resource that is written again has in its spec, under every name but the two typed ones, the
value that the object has there, and nothing if the object has nothing; it has each of the two
if the object has it and it is not `null`, and no other way; it has the status of the object
unless this is `null`, and its type.  Whatever destination the resource is given, or if its
destination is taken away, the written resource changes in this one field of the spec, and the
first destination restores it. -/
theorem carried_through {v : Json} {r : Resource} (hread : Resource.decode.value v = .ok r) :
    (∀ k, k ≠ "publishConnectionDetailsTo" → k ≠ "writeConnectionSecretToRef" →
        (r.toJson.field "spec").table.get? k = (v.field "spec").table.get? k)
      ∧ (∀ k, k = "publishConnectionDetailsTo" ∨ k = "writeConnectionSecretToRef" →
          ((r.toJson.field "spec").table.contains k = true ↔ (v.field "spec").field k ≠ .null))
      ∧ Entries.find? "status" r.toJson.fields = (v.field "status").present?
      ∧ (∀ k, k = "apiVersion" ∨ k = "kind" →
          Entries.find? k r.toJson.fields = Entries.find? k v.fields)
      ∧ ∀ d, (r.withDestination d).toJson = r.toJson.setField "spec" (.ofDict
            ((r.toJson.field "spec").table.assign "publishConnectionDetailsTo"
              (d.map Destination.toJson)))
          ∧ ((r.withDestination d).withDestination r.destination).toJson = r.toJson := by
  have htable : (r.toJson.field "spec").table = r.spec.toDict := by
    rw [Resource.field_spec]
    exact Json.table_ofDict _
  obtain ⟨hversion, hkind⟩ := Resource.type_of_decode hread
  rw [htable]
  refine ⟨fun k hdestination hsecretRef => ?_, fun k hk => Resource.contains_of_decode hread hk,
    ?_, fun k hk => ?_, fun d => ⟨?_, rfl⟩⟩
  · rw [Resource.spec_of_decode hread, ConnectionSpec.rewrittenField, if_neg hdestination,
      if_neg hsecretRef]
  · rw [Resource.find?_status, Resource.status_of_decode hread]
  · rcases hk with rfl | rfl
    · exact hversion.symm
    · exact hkind.symm
  · rw [← htable]
    exact Resource.toJson_redirected (Resource.writable_of_gives (.inl ⟨v, hread⟩)) d

open Sample in
/-- The cache keeps a size of `null`, drops the secret reference and the status that are `null`,
and loses no field when its destination is taken away. -/
theorem cache_carried_through :
    Resource.decode.value cacheDocument = .ok cache
      ∧ (cache.toJson.field "spec").table.get? "size" = some .null
      ∧ (cache.toJson.field "spec").table.contains "publishConnectionDetailsTo" = true
      ∧ (cache.toJson.field "spec").table.contains "writeConnectionSecretToRef" = false
      ∧ Entries.find? "status" cache.toJson.fields = none
      ∧ ((cache.withDestination none).toJson.field "spec").table.get? "size" = some .null := by
  have hread : Resource.decode.value cacheDocument = .ok cache := rfl
  obtain ⟨hcarried, htyped, hstatus, -, hchanged⟩ := carried_through hread
  refine ⟨hread, (hcarried "size" (by decide) (by decide)).trans rfl,
    (htyped _ (.inl rfl)).2 nofun, ?_, hstatus.trans rfl, ?_⟩
  · exact Bool.eq_false_iff.2 fun h => (htyped _ (.inr rfl)).1 h rfl
  · rw [(hchanged none).1]
    rfl

end ConnectionRelay
