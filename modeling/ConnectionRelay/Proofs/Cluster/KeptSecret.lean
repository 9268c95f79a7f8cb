/-
  ConnectionRelay.Proofs.Cluster.KeptSecret
  ─────────────────────────────────────────
  **SECRETS ARE READ BACK.**

  A secret that was read, whatever it holds, comes back when it is sent and read again; only
  its metadata loses the fractions of its times.  Its content, which is what connection
  details are put into, is not touched.  Main statements:

    • `Secret.decode_sent` — what was sent of a secret is read back,
    • `Secret.versionOf_of_decode` — what was read carries the version of the object.
-/
import ConnectionRelay.Proofs.Cluster.Content
import ConnectionRelay.Proofs.Cluster.Metadata

namespace ConnectionRelay.Cluster

open Wire

namespace Secret

variable {s : Secret}

/-! ## §1. Reading back. -/

/-- A secret as it is read back. -/
def kept (s : Secret) : Secret := { s with metadata := s.metadata.kept }

/-- What was sent of a secret is what is kept of it. -/
theorem sent_toJson (s : Secret) : s.toJson.sent = s.kept.toJson := by
  have hdata : (s.data.map dataToJson).map Json.sent = s.data.map dataToJson := by
    cases s.data with
    | none => rfl
    | some d => exact congrArg some (sent_dataToJson d)
  have hbool : (s.immutable.map Json.bool).map Json.sent = s.immutable.map Json.bool := by
    cases s.immutable <;> rfl
  unfold toJson kept
  rw [Json.sent_record]
  simp only [List.map_cons, List.map_nil, hdata, hbool, Option.map_some, Json.sent_str,
    ObjectMeta.sent_toJson, map_sent_str, map_sent_ofTexts]

theorem decode_kept (h : s.metadata.Sound) : decode.value s.kept.toJson = .ok s.kept := by
  refine Shape.take_record (s.inOrder_sentFields .null).nodup (fun f hf hneeded => ?_) ?_
  · rw [omissible_fields.2 f hf] at hneeded
    cases hneeded
  -- one rule for each field of the secret, of which the version and the kind are constant
  refine .cons rfl rfl ?_
  refine .optional s.data rfl (fun d _ => ⟨table_decodeBytes d, nofun⟩) rfl ?_
  refine .optional s.immutable rfl (fun b _ => ⟨rfl, nofun⟩) rfl (.cons rfl rfl ?_)
  refine .optional (some s.metadata.kept) rfl (fun m hm => ?_) rfl ?_
  · cases hm
    exact ⟨ObjectMeta.decode_kept h, nofun⟩
  refine .optional s.stringData rfl (fun t _ => ⟨table_text_ofTexts t, nofun⟩) rfl ?_
  exact .optional s.type rfl (fun t _ => ⟨rfl, nofun⟩) rfl (.nil _)

/-- **What was sent of a secret is read back.** -/
theorem decode_sent (h : s.metadata.Sound) : decode.value s.toJson.sent = .ok s.kept := by
  rw [sent_toJson, decode_kept h]

theorem keeps_sound : shape.Keeps fun s => s.metadata.Sound where
  declared := by
    intro f hf g hg s hs
    simp only [shape, Shape.lenient, List.mem_cons, List.not_mem_nil, or_false] at hf
    rcases hf with rfl | rfl | rfl | rfl | rfl | rfl | rfl
    case inr.inr.inr.inr.inl =>
      obtain ⟨o, ho, rfl⟩ := Field.gives_update hg
      cases o with
      | none => exact ObjectMeta.sound_empty
      | some m => exact ObjectMeta.sound_of_gives ho.of_option
    all_goals
      obtain ⟨o, -, rfl⟩ := Field.gives_update hg
      exact hs
  others := by rintro put ⟨⟩

/-- The metadata of a secret that was read is sound. -/
theorem sound_of_gives (h : decode.Gives s) : s.metadata.Sound :=
  keeps_sound.of_gives ObjectMeta.sound_empty h

theorem sound_ofName (name ns : String) : (Secret.ofName name ns).metadata.Sound := by
  refine ⟨?_, ?_, ?_, ?_, ?_⟩ <;> rintro _ ⟨⟩

theorem sound_apply (h : s.metadata.Sound) (d : Destination) (details : Details) :
    (s.apply d details).metadata.Sound :=
  ⟨h.created, h.deleted, h.grace, h.generation, h.managed⟩

theorem sound_withVersion (h : s.metadata.Sound) (version : String) :
    (s.withVersion version).metadata.Sound :=
  ⟨h.created, h.deleted, h.grace, h.generation, h.managed⟩

/-! ## §2. The version of what was read. -/

/-- What was read of an optional field is read off the field, where the field of a name
that is not there is `null`. -/
theorem take_optional {σ α γ : Type} {shape : Shape σ} {part : σ → γ} {name : String}
    {d : Decoder α} {set : σ → Option α → σ} {f : Option α → γ} (howns : shape.Owns part name)
    (hskip : shape.others = .skipped) (hfield : shape.field? name = some (.optional name d set))
    (hset : ∀ s o, part (set s o) = f o) {start s : σ} (hstart : part start = f none)
    {fs : List (String × Json)} (hsorted : Entries.Sorted fs)
    (h : shape.take start (.obj fs) = .ok s) :
    ∃ o, (option d).value ((Json.obj fs).field name) = .ok o ∧ part s = f o := by
  have hsays := Shape.take_says howns hskip hfield hsorted h
  show ∃ o, (option d).value ((Entries.find? name fs).getD .null) = .ok o ∧ part s = f o
  cases hfind : Entries.find? name fs with
  | none =>
      rw [hfind] at hsays
      exact ⟨none, rfl, Eq.trans hsays hstart⟩
  | some v =>
      rw [hfind] at hsays
      obtain ⟨g, s₀, hg, hs⟩ := hsays
      obtain ⟨o, ho, rfl⟩ := Field.update_defaulted hg
      exact ⟨o, ho, hs.trans (hset s₀ o)⟩

/-- Only a text or `null` is read as a text that may be absent, also after it was sent. -/
theorem eq_of_option_text {v : Json} {o : Option String} (h : (option text).value v.sent = .ok o) :
    v = (o.map Json.str).getD .null := by
  cases v <;> cases h <;> rfl

/-- **What was read carries the version of the object.** -/
theorem versionOf_of_decode {object : Json} (hkeyed : IsKeyed object)
    (h : decode.value object.sent = .ok s) :
    ApiServer.versionOf object = (s.metadata.resourceVersion.map Json.str).getD .null := by
  obtain ⟨hobject, hmetadata⟩ := hkeyed
  obtain ⟨hobj, htake⟩ := obj_of_decode h
  obtain ⟨o, ho, hs⟩ := take_optional (f := fun o => o.getD {}) owns_metadata rfl rfl
    (fun _ _ => rfl) rfl (sorted_fields_sent hobject) htake
  rw [← hobj, Json.field_sent] at ho
  unfold ApiServer.versionOf
  generalize object.field "metadata" = v at ho hmetadata
  cases v with
  | obj fs =>
      obtain ⟨m, hm, rfl⟩ := map_eq_ok.1 ho
      have hm' : ObjectMeta.shape.take {} (.obj (Json.sentFields fs)) = .ok m := hm
      obtain ⟨o, ho, hversion⟩ := take_optional (f := id) ObjectMeta.owns_resourceVersion rfl rfl
        (fun _ _ => rfl) rfl (sorted_fields_sent hmetadata) hm'
      rw [show (Json.obj (Json.obj fs).sent.fields).field "resourceVersion"
        = ((Json.obj fs).field "resourceVersion").sent from Json.field_sent (.obj fs) _] at ho
      rw [eq_of_option_text ho, hs]
      exact congrArg (fun o => (o.map Json.str).getD .null) hversion.symm
  | null =>
      cases ho
      rw [hs]
      rfl
  | _ => cases ho

end Secret

end ConnectionRelay.Cluster
