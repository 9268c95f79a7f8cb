/-
  ConnectionRelay.Proofs.Cluster.PlainSecret
  ──────────────────────────────────────────
  **SECRETS THAT COME BACK AS THEY WERE SENT.**

  The secrets that the relay creates are plain: besides their data and their type they
  have a name, labels, annotations and a resource version.  All of these are texts and
  tables of texts, which sending does not change.  Main statements:

    • `Plain.toJson_sent` — a plain secret is the same after it was sent,
    • `Plain.decode_toJson` — and it is read back,
    • `plain_ofName`, `Plain.apply`, `Plain.withVersion` — the relay and a server that adds
      a resource version keep secrets plain.
-/
import ConnectionRelay.Proofs.Cluster.StoredSecret

namespace ConnectionRelay.Cluster

open Wire

/-! ## §1. Plain secrets. -/

/-- What a connection secret says of itself. -/
def ObjectMeta.plain (m : ObjectMeta) : ObjectMeta :=
  { annotations := m.annotations, labels := m.labels, name := m.name, ns := m.ns,
    resourceVersion := m.resourceVersion }

/-- A secret without anything that the relay does not write. -/
structure Secret.Plain (s : Secret) : Prop where
  metadata : s.metadata = s.metadata.plain
  immutable : s.immutable = none
  stringData : s.stringData = none

theorem Secret.plain_ofName (name ns : String) : (Secret.ofName name ns).Plain := ⟨rfl, rfl, rfl⟩

variable {s : Secret}

theorem Secret.Plain.apply (h : s.Plain) (d : Destination) (details : Details) :
    (s.apply d details).Plain := by
  have hmetadata : ∀ m : ObjectMeta, m = m.plain → ∀ labels annotations,
      { m with labels, annotations } = ({ m with labels, annotations } : ObjectMeta).plain := by
    intro m hm labels annotations
    rw [hm]
    rfl
  exact ⟨hmetadata _ h.metadata _ _, h.immutable, h.stringData⟩

theorem Secret.Plain.withVersion (h : s.Plain) (version : String) :
    (s.withVersion version).Plain := by
  have hmetadata : ∀ m : ObjectMeta, m = m.plain → ∀ resourceVersion,
      { m with resourceVersion } = ({ m with resourceVersion } : ObjectMeta).plain := by
    intro m hm resourceVersion
    rw [hm]
    rfl
  exact ⟨hmetadata _ h.metadata _, h.immutable, h.stringData⟩

/-! ## §2. Sending. -/

theorem map_sent_str (o : Option String) : (o.map Json.str).map Json.sent = o.map .str := by
  cases o <;> rfl

theorem map_sent_ofTexts (o : Option (Dict String)) :
    (o.map Json.ofTexts).map Json.sent = o.map .ofTexts := by
  cases o with
  | none => rfl
  | some d => exact congrArg some (Json.sent_ofTexts d)

theorem ObjectMeta.plain_toJson_sent (m : ObjectMeta) : m.plain.toJson.sent = m.plain.toJson := by
  have hfields : m.plain.sentFields m.resourceVersion
      = m.plain.fieldsBefore ++ ("resourceVersion", m.resourceVersion.map .str)
        :: m.plain.fieldsAfter := by
    simp only [sentFields, fieldsBefore, fieldsAfter, sentField, plain, List.map_cons,
      List.map_nil, map_sent_str, map_sent_ofTexts, Option.map_none]
  rw [toJson_sent]
  exact congrArg Json.record hfields

/-- A plain secret is the same after it was sent. -/
theorem Secret.Plain.toJson_sent (h : s.Plain) : s.toJson.sent = s.toJson := by
  have hdata : (s.data.map dataToJson).map Json.sent = s.data.map dataToJson := by
    cases s.data with
    | none => rfl
    | some d => exact congrArg some (sent_dataToJson d)
  have hmetadata : s.metadata.toJson.sent = s.metadata.toJson := by
    rw [h.metadata]
    exact s.metadata.plain_toJson_sent
  have hfields : s.sentFields s.metadata.toJson
      = s.fieldsBefore ++ ("metadata", some s.metadata.toJson) :: s.fieldsAfter := by
    simp only [sentFields, fieldsBefore, fieldsAfter, sentField, List.map_cons, List.map_nil,
      map_sent_str, map_sent_ofTexts, hdata, h.immutable, Option.map_none, Option.map_some,
      Json.sent_str]
  rw [Secret.toJson_sent, hmetadata]
  exact congrArg Json.record hfields

/-! ## §3. Reading back. -/

/-- Every field of metadata and of a secret may be left out. -/
theorem omissible_fields :
    (∀ f ∈ ObjectMeta.shape.fields, f.omissible = true)
      ∧ ∀ f ∈ Secret.shape.fields, f.omissible = true := by
  have hmetadata : ObjectMeta.shape.fields.all Field.omissible = true := rfl
  have hsecret : Secret.shape.fields.all Field.omissible = true := rfl
  exact ⟨List.all_eq_true.1 hmetadata, List.all_eq_true.1 hsecret⟩

theorem ObjectMeta.plain_decode_toJson (m : ObjectMeta) :
    ObjectMeta.decode.value m.plain.toJson = .ok m.plain := by
  show (shape.decode {}).value (.record
    [("annotations", m.annotations.map .ofTexts), ("creationTimestamp", none),
     ("deletionGracePeriodSeconds", none), ("deletionTimestamp", none), ("finalizers", none),
     ("generateName", none), ("generation", none), ("labels", m.labels.map .ofTexts),
     ("managedFields", none), ("name", m.name.map .str), ("namespace", m.ns.map .str),
     ("ownerReferences", none), ("resourceVersion", m.resourceVersion.map .str),
     ("selfLink", none), ("uid", none)]) = _
  refine Shape.take_record (m.plain.inOrder_sentFields none).nodup (fun f hf hneeded => ?_) ?_
  · rw [omissible_fields.1 f hf] at hneeded
    cases hneeded
  -- one rule for each field of metadata, in the order in which they are written
  refine .optional m.annotations rfl (fun t _ => ⟨table_text_ofTexts t, nofun⟩) rfl ?_
  refine .absent (.absent (.absent (.absent (.absent (.absent ?_)))))
  refine .optional m.labels rfl (fun t _ => ⟨table_text_ofTexts t, nofun⟩) rfl (.absent ?_)
  refine .optional m.name rfl (fun t _ => ⟨rfl, nofun⟩) rfl ?_
  refine .optional m.ns rfl (fun t _ => ⟨rfl, nofun⟩) rfl (.absent ?_)
  exact .optional m.resourceVersion rfl (fun t _ => ⟨rfl, nofun⟩) rfl (.absent (.absent (.nil _)))

/-- **A plain secret is read back.** -/
theorem Secret.Plain.decode_toJson (h : s.Plain) : Secret.decode.value s.toJson = .ok s := by
  have hmetadata : ObjectMeta.decode.value s.metadata.toJson = .ok s.metadata := by
    rw [h.metadata]
    exact s.metadata.plain_decode_toJson
  have hs : s = { data := s.data, metadata := s.metadata, type := s.type } := by
    obtain ⟨data, immutable, metadata, stringData, type⟩ := s
    obtain ⟨-, rfl, rfl⟩ := h
    rfl
  rw [hs]
  show (shape.decode {}).value (.record
    [("apiVersion", some (.str apiVersion)), ("data", s.data.map dataToJson), ("immutable", none),
     ("kind", some (.str kind)), ("metadata", (some s.metadata).map ObjectMeta.toJson),
     ("stringData", none), ("type", s.type.map .str)]) = _
  refine Shape.take_record (s.inOrder_sentFields .null).nodup (fun f hf hneeded => ?_) ?_
  · rw [omissible_fields.2 f hf] at hneeded
    cases hneeded
  -- likewise for the fields of the secret, of which the version and the kind are constant
  refine .cons rfl rfl (.optional s.data rfl (fun d _ => ⟨table_decodeBytes d, nofun⟩) rfl ?_)
  refine .absent (.cons rfl rfl ?_)
  refine .optional (some s.metadata) rfl (fun m hm => ?_) rfl (.absent ?_)
  · cases hm
    exact ⟨hmetadata, nofun⟩
  · exact .optional s.type rfl (fun t _ => ⟨rfl, nofun⟩) rfl (.nil _)

end ConnectionRelay.Cluster
