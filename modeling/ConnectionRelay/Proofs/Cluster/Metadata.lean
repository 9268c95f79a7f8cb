/-
  ConnectionRelay.Proofs.Cluster.Metadata
  ───────────────────────────────────────
  **METADATA IS READ BACK.**

  What is written of the metadata of an object, sent and read again is that metadata, but
  for two things: its times have lost their fractions, and binary64 numbers among the
  managed fields are those that were sent.  Main statements:

    • `ObjectMeta.decode_toJson` — what was written is read back, with whole seconds,
    • `ObjectMeta.sent_toJson` — the metadata that was sent is that of `ObjectMeta.kept`,
    • `ObjectMeta.sound_of_gives` — all this holds if the metadata was read itself.
-/
import ConnectionRelay.Proofs.Cluster.PlainSecret
import ConnectionRelay.Proofs.Cluster.Timestamps
import ConnectionRelay.Proofs.Wire.Records

namespace ConnectionRelay.Cluster

open Wire

/-! ## §1. Times. -/

namespace Timestamp

/-- A time that was read has a date. -/
theorem valid_of_gives {t : Timestamp} (h : decode.Gives t) : t.Valid := by
  obtain ⟨v, hv⟩ := h.of_scalar
  cases v with
  | str s =>
      cases hs : parse s with
      | error flaw => simp [hs] at hv
      | ok t' =>
          simp only [hs, Option.some.injEq, Except.ok.injEq] at hv
          exact hv ▸ valid_of_parse hs
  | _ => cases hv

theorem toJson_whole (t : Timestamp) : t.whole.toJson = t.toJson :=
  congrArg Json.str t.render_whole

/-- A time without a fraction is read back. -/
theorem decode_whole {t : Timestamp} (h : t.Valid) : decode.value t.whole.toJson = .ok t.whole := by
  rw [toJson_whole]
  refine Decoder.scalar_value (congrArg some ?_)
  rw [parse_render h]

end Timestamp

/-- Only whole seconds of a time are written. -/
theorem map_toJson_whole (o : Option Timestamp) :
    (o.map Timestamp.whole).map Timestamp.toJson = o.map Timestamp.toJson := by
  cases o with
  | none => rfl
  | some t => exact congrArg some t.toJson_whole

theorem map_whole_whole (o : Option Timestamp) :
    (o.map Timestamp.whole).map Timestamp.whole = o.map Timestamp.whole := by
  cases o with
  | none => rfl
  | some t => exact congrArg some t.whole_whole

theorem map_sent_time (o : Option Timestamp) :
    (o.map Timestamp.toJson).map Json.sent = o.map Timestamp.toJson := by
  cases o <;> rfl

theorem int64_lt_of_gives {n : Int} (h : int64.Gives n) : n < Nat.pow 2 63 := by
  obtain ⟨v, hv⟩ := h.of_scalar
  cases v with
  | num number =>
      cases number with
      | int m =>
          by_cases hm : m < Nat.pow 2 63
          · simp only [hm, if_true, Option.some.injEq, Except.ok.injEq] at hv
            exact hv ▸ hm
          · simp only [hm, if_false, Option.some.injEq] at hv
            cases hv
      | real bits => cases hv
  | _ => cases hv

theorem decode_number {n : Int} (h : n < Nat.pow 2 63) :
    int64.value (ObjectMeta.number n) = .ok n :=
  Decoder.scalar_value (congrArg some (if_pos h))

/-! ## §2. Owners and managers. -/

theorem OwnerReference.decode_toJson (o : OwnerReference) : decode.value o.toJson = .ok o := by
  refine Shape.take_record ?_ (Shape.needed_of_all rfl) ?_
  · show ["apiVersion", "blockOwnerDeletion", "controller", "kind", "name", "uid"].Nodup
    decide
  refine .cons rfl rfl ?_
  refine .optional o.blockOwnerDeletion rfl (fun b _ => ⟨rfl, nofun⟩) rfl ?_
  refine .optional o.controller rfl (fun b _ => ⟨rfl, nofun⟩) rfl ?_
  exact .cons rfl rfl (.cons rfl rfl (.cons rfl rfl (.nil _)))

theorem OwnerReference.sent_toJson (o : OwnerReference) : o.toJson.sent = o.toJson := by
  have hbool (b : Option Bool) : (b.map Json.bool).map Json.sent = b.map Json.bool := by
    cases b <;> rfl
  unfold toJson
  rw [Json.sent_record]
  simp only [List.map_cons, List.map_nil, hbool, Option.map_some, Json.sent_str]

namespace ManagedFields

/-- Managed fields with their time in whole seconds. -/
def whole (m : ManagedFields) : ManagedFields := { m with time := m.time.map Timestamp.whole }

/-- Managed fields as they are read back after they were sent. -/
def kept (m : ManagedFields) : ManagedFields :=
  { m with fieldsV1 := m.fieldsV1.map Json.sent, time := m.time.map Timestamp.whole }

/-- Managed fields that were read. -/
structure Sound (m : ManagedFields) : Prop where
  fields : m.fieldsV1 ≠ some .null
  time : ∀ t, m.time = some t → t.Valid

theorem toJson_whole (m : ManagedFields) : m.whole.toJson = m.toJson := by
  unfold toJson whole
  rw [map_toJson_whole]

theorem whole_kept (m : ManagedFields) : m.kept.whole = m.kept := by
  unfold whole kept
  rw [map_whole_whole]

theorem sent_toJson (m : ManagedFields) : m.toJson.sent = m.kept.toJson := by
  unfold toJson kept
  rw [Json.sent_record]
  simp only [List.map_cons, List.map_nil, map_sent_time, map_toJson_whole, map_sent_str]

theorem Sound.kept {m : ManagedFields} (h : m.Sound) : m.kept.Sound := by
  refine ⟨fun hnull => ?_, fun t ht => ?_⟩
  · obtain ⟨v, hv, hsent⟩ := Option.map_eq_some_iff.1 hnull
    cases v with
    | null => exact h.fields hv
    | _ => cases hsent
  · obtain ⟨t', ht', rfl⟩ := Option.map_eq_some_iff.1 ht
    exact (h.time t' ht').whole

/-- What was written of managed fields is read back, with their time in whole seconds. -/
theorem decode_toJson {m : ManagedFields} (h : m.Sound) : decode.value m.toJson = .ok m.whole := by
  have hfields : m.fieldsV1 = m.fieldsV1.map id := by rw [Option.map_id]; rfl
  have htime (t : Timestamp) (ht : m.whole.time = some t) :
      Timestamp.decode.value t.toJson = .ok t := by
    obtain ⟨t', ht', rfl⟩ := Option.map_eq_some_iff.1 ht
    exact Timestamp.decode_whole (h.time t' ht')
  rw [← toJson_whole]
  refine Shape.take_record ?_ (Shape.needed_of_all rfl) ?_
  · show ["apiVersion", "fieldsType", "fieldsV1", "manager", "operation", "subresource",
      "time"].Nodup
    decide
  refine .optional m.apiVersion rfl (fun t _ => ⟨rfl, nofun⟩) rfl ?_
  refine .optional m.fieldsType rfl (fun t _ => ⟨rfl, nofun⟩) rfl ?_
  rw [show m.whole.fieldsV1 = _ from hfields]
  refine .optional m.fieldsV1 rfl (fun v hv => ⟨rfl, ?_⟩) rfl ?_
  · rintro rfl
    exact h.fields hv
  refine .optional m.manager rfl (fun t _ => ⟨rfl, nofun⟩) rfl ?_
  refine .optional m.operation rfl (fun t _ => ⟨rfl, nofun⟩) rfl ?_
  refine .optional m.subresource rfl (fun t _ => ⟨rfl, nofun⟩) rfl ?_
  exact .optional m.whole.time rfl (fun t ht => ⟨htime t ht, nofun⟩) rfl (.nil _)

theorem keeps_sound : shape.Keeps Sound where
  declared := by
    intro f hf g hg m hm
    simp only [shape, Shape.lenient, List.mem_cons, List.not_mem_nil, or_false] at hf
    rcases hf with rfl | rfl | rfl | rfl | rfl | rfl | rfl
    case inr.inr.inl =>
      obtain ⟨o, ho, rfl⟩ := Field.gives_update hg
      refine ⟨?_, hm.time⟩
      rintro rfl
      exact ne_null_of_gives ho rfl
    case inr.inr.inr.inr.inr.inr =>
      obtain ⟨o, ho, rfl⟩ := Field.gives_update hg
      refine ⟨hm.fields, ?_⟩
      rintro t rfl
      exact Timestamp.valid_of_gives ho.of_option
    all_goals
      obtain ⟨o, -, rfl⟩ := Field.gives_update hg
      exact ⟨hm.fields, hm.time⟩
  others := by rintro put ⟨⟩

theorem sound_of_gives {m : ManagedFields} (h : decode.Gives m) : m.Sound := by
  refine keeps_sound.of_gives ⟨(Option.some_ne_none Json.null).symm, ?_⟩ h
  rintro t ⟨⟩

end ManagedFields

/-! ## §3. Metadata. -/

namespace ObjectMeta

/-- Metadata with its times in whole seconds. -/
def whole (m : ObjectMeta) : ObjectMeta :=
  { m with
    creationTimestamp := m.creationTimestamp.map Timestamp.whole
    deletionTimestamp := m.deletionTimestamp.map Timestamp.whole
    managedFields := m.managedFields.map (List.map ManagedFields.whole) }

/-- Metadata as it is read back after it was sent. -/
def kept (m : ObjectMeta) : ObjectMeta :=
  { m with
    creationTimestamp := m.creationTimestamp.map Timestamp.whole
    deletionTimestamp := m.deletionTimestamp.map Timestamp.whole
    managedFields := m.managedFields.map (List.map ManagedFields.kept) }

/-- Metadata that was read. -/
structure Sound (m : ObjectMeta) : Prop where
  created : ∀ t, m.creationTimestamp = some t → t.Valid
  deleted : ∀ t, m.deletionTimestamp = some t → t.Valid
  grace : ∀ n, m.deletionGracePeriodSeconds = some n → n < Nat.pow 2 63
  generation : ∀ n, m.generation = some n → n < Nat.pow 2 63
  managed : ∀ fs, m.managedFields = some fs → ∀ f ∈ fs, f.Sound

theorem map_sent_list {α : Type} {enc : α → Json} (keep : α → α)
    (h : ∀ a, (enc a).sent = enc (keep a)) (o : Option (List α)) :
    (o.map fun as => Json.arr (as.map enc)).map Json.sent
      = (o.map (List.map keep)).map fun as => Json.arr (as.map enc) := by
  cases o with
  | none => rfl
  | some as =>
      refine congrArg (some ∘ Json.arr) ?_
      show Json.sentItems (as.map enc) = (as.map keep).map enc
      induction as with
      | nil => rfl
      | cons a as ih => rw [List.map_cons, Json.sentItems, h a, ih, List.map_cons, List.map_cons]

theorem toJson_whole (m : ObjectMeta) : m.whole.toJson = m.toJson := by
  have hmanaged : (m.managedFields.map (List.map ManagedFields.whole)).map
        (fun fs => Json.arr (fs.map ManagedFields.toJson))
      = m.managedFields.map fun fs => Json.arr (fs.map ManagedFields.toJson) := by
    cases m.managedFields with
    | none => rfl
    | some fs =>
        exact congrArg (some ∘ Json.arr) ((List.map_map ..).trans
          (List.map_congr_left fun f _ => f.toJson_whole))
  unfold toJson whole
  rw [map_toJson_whole, map_toJson_whole, hmanaged]

theorem whole_kept (m : ObjectMeta) : m.kept.whole = m.kept := by
  have hmanaged : (m.managedFields.map (List.map ManagedFields.kept)).map
      (List.map ManagedFields.whole) = m.managedFields.map (List.map ManagedFields.kept) := by
    cases m.managedFields with
    | none => rfl
    | some fs =>
        exact congrArg some ((List.map_map ..).trans
          (List.map_congr_left fun f _ => f.whole_kept))
  unfold whole kept
  rw [map_whole_whole, map_whole_whole, hmanaged]

/-- **The metadata that was sent** is the metadata that is kept. -/
theorem sent_toJson (m : ObjectMeta) : m.toJson.sent = m.kept.toJson := by
  have hnumber (o : Option Int) : (o.map number).map Json.sent = o.map number := by
    cases o <;> rfl
  have hfinalizers := @map_sent_list _ Json.str id (fun _ => rfl) m.finalizers
  have howners := map_sent_list id OwnerReference.sent_toJson m.ownerReferences
  have hmanaged := map_sent_list ManagedFields.kept ManagedFields.sent_toJson m.managedFields
  rw [List.map_id_fun, Option.map_id] at hfinalizers howners
  unfold toJson kept
  rw [Json.sent_record]
  simp only [List.map_cons, List.map_nil, map_sent_time, map_toJson_whole, hnumber, hfinalizers,
    howners, hmanaged, map_sent_str, map_sent_ofTexts, id]

theorem Sound.kept {m : ObjectMeta} (h : m.Sound) : m.kept.Sound := by
  have htime {o : Option Timestamp} (ho : ∀ t, o = some t → t.Valid) (t : Timestamp)
      (ht : o.map Timestamp.whole = some t) : t.Valid := by
    obtain ⟨t', ht', rfl⟩ := Option.map_eq_some_iff.1 ht
    exact (ho t' ht').whole
  refine ⟨htime h.created, htime h.deleted, h.grace, h.generation, fun fs hfs => ?_⟩
  obtain ⟨fs', hfs', rfl⟩ := Option.map_eq_some_iff.1 hfs
  exact List.forall_mem_map.2 fun f hf => (h.managed fs' hfs' f hf).kept

/-- **What was written of metadata** is read back, with its times in whole seconds. -/
theorem decode_toJson {m : ObjectMeta} (h : m.Sound) : decode.value m.toJson = .ok m.whole := by
  have htime {o : Option Timestamp} (ho : ∀ t, o = some t → t.Valid) (t : Timestamp)
      (ht : o.map Timestamp.whole = some t) :
      Timestamp.decode.value t.toJson = .ok t ∧ t.toJson ≠ .null := by
    obtain ⟨t', ht', rfl⟩ := Option.map_eq_some_iff.1 ht
    exact ⟨Timestamp.decode_whole (ho t' ht'), nofun⟩
  have hmanaged (fs : List ManagedFields)
      (hfs : m.managedFields.map (List.map ManagedFields.whole) = some fs) :
      (list ManagedFields.decode).value (.arr (fs.map ManagedFields.toJson)) = .ok fs := by
    obtain ⟨fs', hfs', rfl⟩ := Option.map_eq_some_iff.1 hfs
    refine list_value _ (List.forall_mem_map.2 fun f hf => ?_)
    rw [ManagedFields.toJson_whole]
    exact ManagedFields.decode_toJson (h.managed fs' hfs' f hf)
  rw [← toJson_whole]
  refine Shape.take_record (m.inOrder_sentFields none).nodup (fun f hf hneeded => ?_) ?_
  · rw [omissible_fields.1 f hf] at hneeded
    cases hneeded
  -- one rule for each field of metadata, in the order in which they are written
  refine .optional m.annotations rfl (fun t _ => ⟨table_text_ofTexts t, nofun⟩) rfl ?_
  refine .optional m.whole.creationTimestamp rfl (htime h.created) rfl ?_
  refine .optional m.deletionGracePeriodSeconds rfl
    (fun n hn => ⟨decode_number (h.grace n hn), nofun⟩) rfl ?_
  refine .optional m.whole.deletionTimestamp rfl (htime h.deleted) rfl ?_
  refine .optional m.finalizers rfl (fun fs _ => ⟨list_value fs fun _ _ => rfl, nofun⟩) rfl ?_
  refine .optional m.generateName rfl (fun t _ => ⟨rfl, nofun⟩) rfl ?_
  refine .optional m.generation rfl (fun n hn => ⟨decode_number (h.generation n hn), nofun⟩) rfl ?_
  refine .optional m.labels rfl (fun t _ => ⟨table_text_ofTexts t, nofun⟩) rfl ?_
  refine .optional m.whole.managedFields rfl (fun fs hfs => ⟨hmanaged fs hfs, nofun⟩) rfl ?_
  refine .optional m.name rfl (fun t _ => ⟨rfl, nofun⟩) rfl ?_
  refine .optional m.ns rfl (fun t _ => ⟨rfl, nofun⟩) rfl ?_
  refine .optional m.ownerReferences rfl
    (fun os _ => ⟨list_value os fun o _ => o.decode_toJson, nofun⟩) rfl ?_
  refine .optional m.resourceVersion rfl (fun t _ => ⟨rfl, nofun⟩) rfl ?_
  refine .optional m.selfLink rfl (fun t _ => ⟨rfl, nofun⟩) rfl ?_
  exact .optional m.uid rfl (fun t _ => ⟨rfl, nofun⟩) rfl (.nil _)

/-- What is kept of metadata is read back as it is. -/
theorem decode_kept {m : ObjectMeta} (h : m.Sound) : decode.value m.kept.toJson = .ok m.kept := by
  rw [decode_toJson h.kept, whole_kept]

theorem keeps_sound : shape.Keeps Sound where
  declared := by
    intro f hf g hg m hm
    simp only [shape, Shape.lenient, List.mem_cons, List.not_mem_nil, or_false] at hf
    rcases hf with rfl | rfl | rfl | rfl | rfl | rfl | rfl | rfl | rfl | rfl | rfl | rfl | rfl
      | rfl | rfl
    case inr.inl =>
      obtain ⟨o, ho, rfl⟩ := Field.gives_update hg
      refine ⟨?_, hm.deleted, hm.grace, hm.generation, hm.managed⟩
      rintro t rfl
      exact Timestamp.valid_of_gives ho.of_option
    case inr.inr.inl =>
      obtain ⟨o, ho, rfl⟩ := Field.gives_update hg
      refine ⟨hm.created, hm.deleted, ?_, hm.generation, hm.managed⟩
      rintro n rfl
      exact int64_lt_of_gives ho.of_option
    case inr.inr.inr.inl =>
      obtain ⟨o, ho, rfl⟩ := Field.gives_update hg
      refine ⟨hm.created, ?_, hm.grace, hm.generation, hm.managed⟩
      rintro t rfl
      exact Timestamp.valid_of_gives ho.of_option
    case inr.inr.inr.inr.inr.inr.inl =>
      obtain ⟨o, ho, rfl⟩ := Field.gives_update hg
      refine ⟨hm.created, hm.deleted, hm.grace, ?_, hm.managed⟩
      rintro n rfl
      exact int64_lt_of_gives ho.of_option
    case inr.inr.inr.inr.inr.inr.inr.inr.inl =>
      obtain ⟨o, ho, rfl⟩ := Field.gives_update hg
      refine ⟨hm.created, hm.deleted, hm.grace, hm.generation, ?_⟩
      rintro fs rfl f hf
      exact ManagedFields.sound_of_gives (ho.of_option.of_list f hf)
    all_goals
      obtain ⟨o, -, rfl⟩ := Field.gives_update hg
      exact ⟨hm.created, hm.deleted, hm.grace, hm.generation, hm.managed⟩
  others := by rintro put ⟨⟩

theorem sound_empty : Sound {} := by
  refine ⟨?_, ?_, ?_, ?_, ?_⟩ <;> rintro _ ⟨⟩

/-- **The metadata that was read** is sound. -/
theorem sound_of_gives {m : ObjectMeta} (h : decode.Gives m) : m.Sound :=
  keeps_sound.of_gives sound_empty h

end ObjectMeta

end ConnectionRelay.Cluster
