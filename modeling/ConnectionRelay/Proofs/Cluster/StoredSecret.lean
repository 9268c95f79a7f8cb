/-
  ConnectionRelay.Proofs.Cluster.StoredSecret
  ───────────────────────────────────────────
  **SECRETS AS A SERVER KEEPS THEM.**

  A server keeps the body it was sent, with a resource version of its own.  What a reader
  decodes of an object says the same as the fields of the object do.  Main statements:

    • `dataOf_of_decode`, `resourceVersion_of_decode` — a decoded secret has the data and
      the resource version of the object,
    • `withVersion_toJson` — giving a written secret a version is writing the secret with
      that version,
    • `dataOf_toJson`, `versionOf_toJson`, `name_toJson` — what a written secret shows.
-/
import ConnectionRelay.Cluster.ApiServer
import ConnectionRelay.Cluster.Secret
import ConnectionRelay.Proofs.Wire.Record

namespace ConnectionRelay.Cluster

open Wire

/-! ## §1. Objects without repeated fields. -/

/-- Neither the object nor its metadata repeats a field. -/
def IsKeyed (object : Json) : Prop :=
  Entries.Sorted object.fields ∧ Entries.Sorted (object.field "metadata").fields

theorem sorted_fields_sent {v : Json} (h : Entries.Sorted v.fields) :
    Entries.Sorted v.sent.fields := by
  cases v with
  | obj fs =>
      show Entries.Sorted (Json.sentFields fs)
      rw [Json.sentFields_eq]
      exact List.pairwise_map.2 h
  | _ => exact List.Pairwise.nil

/-! ## §2. What the fields of an object say. -/

/-- The data of a secret, as it comes to a reader. -/
def Secret.dataOf (object : Json) : Details :=
  match (option (table decodeBytes)).value (object.sent.field "data") with
  | .ok data => data.getD .empty
  | .error _ => .empty

theorem Secret.owns_data : Secret.shape.Owns Secret.data "data" := by
  intro f hf hne v g s hg
  simp only [Secret.shape, Shape.lenient, List.mem_cons, List.not_mem_nil, or_false] at hf
  rcases hf with rfl | rfl | rfl | rfl | rfl | rfl | rfl
  case inr.inr.inl => exact absurd rfl hne
  all_goals
    obtain ⟨o, -, rfl⟩ := Field.update_defaulted hg
    rfl

theorem Secret.owns_metadata : Secret.shape.Owns Secret.metadata "metadata" := by
  intro f hf hne v g s hg
  simp only [Secret.shape, Shape.lenient, List.mem_cons, List.not_mem_nil, or_false] at hf
  rcases hf with rfl | rfl | rfl | rfl | rfl | rfl | rfl
  case inr.inr.inr.inr.inl => exact absurd rfl hne
  all_goals
    obtain ⟨o, -, rfl⟩ := Field.update_defaulted hg
    rfl

theorem ObjectMeta.owns_resourceVersion :
    ObjectMeta.shape.Owns ObjectMeta.resourceVersion "resourceVersion" := by
  intro f hf hne v g s hg
  simp only [ObjectMeta.shape, Shape.lenient, List.mem_cons, List.not_mem_nil, or_false] at hf
  rcases hf with rfl | rfl | rfl | rfl | rfl | rfl | rfl | rfl | rfl | rfl | rfl | rfl | rfl
    | rfl | rfl
  case inr.inr.inr.inr.inr.inr.inr.inr.inr.inr.inr.inr.inl => exact absurd rfl hne
  all_goals
    obtain ⟨o, -, rfl⟩ := Field.update_defaulted hg
    rfl

/-- Only objects are decoded. -/
theorem Secret.obj_of_decode {v : Json} {s : Secret} (h : Secret.decode.value v = .ok s) :
    v = .obj v.fields ∧ Secret.shape.take {} (.obj v.fields) = .ok s := by
  cases v with
  | obj fs => exact ⟨rfl, h⟩
  | _ => cases h

/-- A decoded secret has the data of the object. -/
theorem Secret.dataOf_of_decode {object : Json} (hkeyed : IsKeyed object) {s : Secret}
    (h : Secret.decode.value object.sent = .ok s) : Secret.dataOf object = s.details := by
  obtain ⟨hobj, htake⟩ := obj_of_decode h
  have hsays := Shape.take_says owns_data rfl rfl (sorted_fields_sent hkeyed.1) htake
  have hfield : object.sent.field "data"
      = (Entries.find? "data" object.sent.fields).getD .null := by
    rw [hobj]; rfl
  unfold dataOf details
  rw [hfield]
  cases hf : Entries.find? "data" object.sent.fields with
  | none =>
      rw [hf] at hsays
      have hnone : s.data = none := hsays
      rw [hnone]
      rfl
  | some v =>
      rw [hf] at hsays
      obtain ⟨g, s₀, hg, hs⟩ := hsays
      obtain ⟨data, hdata, rfl⟩ := Field.update_defaulted hg
      have hs' : s.data = data := hs
      simp only [Option.getD_some, hdata, hs']

theorem ObjectMeta.resourceVersion_of_decode {v : Json} (hsorted : Entries.Sorted v.fields)
    {m : ObjectMeta} (h : ObjectMeta.decode.value v = .ok m) {version : String}
    (hversion : v.field "resourceVersion" = .str version) :
    m.resourceVersion = some version := by
  cases v with
  | obj fs =>
      have hsays := Shape.take_says owns_resourceVersion rfl rfl hsorted h
      have hfind : Entries.find? "resourceVersion" fs = some (.str version) := by
        cases hf : Entries.find? "resourceVersion" fs with
        | none => simp [Json.field, hf] at hversion
        | some r => simpa [Json.field, hf] using hversion
      rw [show (Json.obj fs).fields = fs from rfl, hfind] at hsays
      obtain ⟨g, m₀, hg, hm⟩ := hsays
      obtain ⟨o, ho, rfl⟩ := Field.update_defaulted hg
      cases ho
      exact hm
  | _ => cases h

/-- The metadata of a decoded secret is decoded from the metadata of the object. -/
theorem Secret.metadata_of_decode {v : Json} (hsorted : Entries.Sorted v.fields) {s : Secret}
    (h : Secret.decode.value v = .ok s) {fs : List (String × Json)}
    (hmetadata : v.field "metadata" = .obj fs) :
    ObjectMeta.decode.value (.obj fs) = .ok s.metadata := by
  obtain ⟨hobj, htake⟩ := obj_of_decode h
  have hsays := Shape.take_says owns_metadata rfl rfl hsorted htake
  have hfind : Entries.find? "metadata" v.fields = some (.obj fs) := by
    rw [hobj] at hmetadata
    cases hf : Entries.find? "metadata" v.fields with
    | none => simp [Json.field, hf] at hmetadata
    | some r => simpa [Json.field, hf] using hmetadata
  rw [hfind] at hsays
  obtain ⟨g, s₀, hg, hs⟩ := hsays
  obtain ⟨o, ho, rfl⟩ := Field.update_defaulted hg
  change (ObjectMeta.decode.value (.obj fs)).map some = .ok o at ho
  change s.metadata = o.getD {} at hs
  cases hm : ObjectMeta.decode.value (.obj fs) with
  | error e => rw [hm] at ho; cases ho
  | ok m =>
      rw [hm] at ho
      cases ho
      rw [hs]
      rfl

/-- A decoded secret has the resource version of the object. -/
theorem Secret.resourceVersion_of_decode {object : Json} (hkeyed : IsKeyed object) {s : Secret}
    (h : Secret.decode.value object.sent = .ok s) {version : String}
    (hversion : ApiServer.versionOf object = .str version) :
    s.metadata.resourceVersion = some version := by
  obtain ⟨hobject, hmetadata⟩ := hkeyed
  unfold ApiServer.versionOf at hversion
  cases hm : object.field "metadata" with
  | obj fs =>
      rw [hm] at hversion hmetadata
      have hsent : object.sent.field "metadata" = (Json.obj fs).sent := by
        rw [Json.field_sent, hm]
      refine ObjectMeta.resourceVersion_of_decode (sorted_fields_sent hmetadata)
        (metadata_of_decode (sorted_fields_sent hobject) h hsent) ?_
      show (Json.obj fs).sent.field "resourceVersion" = _
      rw [Json.field_sent, hversion]
      rfl
  | _ => rw [hm] at hversion; cases hversion

/-! ## §3. Secrets as they are written. -/

/-- A secret with another resource version. -/
def Secret.withVersion (s : Secret) (version : String) : Secret :=
  { s with metadata := { s.metadata with resourceVersion := some version } }

/-- The fields of metadata before the resource version. -/
def ObjectMeta.fieldsBefore (m : ObjectMeta) : List (String × Option Json) :=
  [("annotations", m.annotations.map .ofTexts),
   ("creationTimestamp", m.creationTimestamp.map Timestamp.toJson),
   ("deletionGracePeriodSeconds", m.deletionGracePeriodSeconds.map number),
   ("deletionTimestamp", m.deletionTimestamp.map Timestamp.toJson),
   ("finalizers", m.finalizers.map fun fs => .arr (fs.map .str)),
   ("generateName", m.generateName.map .str),
   ("generation", m.generation.map number),
   ("labels", m.labels.map .ofTexts),
   ("managedFields", m.managedFields.map fun fs => .arr (fs.map ManagedFields.toJson)),
   ("name", m.name.map .str),
   ("namespace", m.ns.map .str),
   ("ownerReferences", m.ownerReferences.map fun os => .arr (os.map OwnerReference.toJson))]

/-- The fields of metadata after the resource version. -/
def ObjectMeta.fieldsAfter (m : ObjectMeta) : List (String × Option Json) :=
  [("selfLink", m.selfLink.map .str), ("uid", m.uid.map .str)]

/-- The fields of a secret before its metadata. -/
def Secret.fieldsBefore (s : Secret) : List (String × Option Json) :=
  [("apiVersion", some (.str apiVersion)), ("data", s.data.map dataToJson),
   ("immutable", s.immutable.map .bool), ("kind", some (.str kind))]

/-- The fields of a secret after its metadata. -/
def Secret.fieldsAfter (s : Secret) : List (String × Option Json) :=
  [("stringData", s.stringData.map .ofTexts), ("type", s.type.map .str)]

/-- A field that was sent. -/
def sentField (f : String × Option Json) : String × Option Json := (f.1, f.2.map Json.sent)

/-- The fields of metadata that was sent. -/
def ObjectMeta.sentFields (m : ObjectMeta) (version : Option String) :
    List (String × Option Json) :=
  m.fieldsBefore.map sentField
    ++ ("resourceVersion", version.map .str) :: m.fieldsAfter.map sentField

/-- The fields of a secret that was sent. -/
def Secret.sentFields (s : Secret) (metadata : Json) : List (String × Option Json) :=
  s.fieldsBefore.map sentField ++ ("metadata", some metadata) :: s.fieldsAfter.map sentField

theorem ObjectMeta.inOrder_sentFields (m : ObjectMeta) (version : Option String) :
    Json.InOrder (m.sentFields version) := by
  show ["annotations", "creationTimestamp", "deletionGracePeriodSeconds", "deletionTimestamp",
    "finalizers", "generateName", "generation", "labels", "managedFields", "name", "namespace",
    "ownerReferences", "resourceVersion", "selfLink", "uid"].Pairwise (· < ·)
  decide

theorem Secret.inOrder_sentFields (s : Secret) (metadata : Json) :
    Json.InOrder (s.sentFields metadata) := by
  show ["apiVersion", "data", "immutable", "kind", "metadata", "stringData", "type"].Pairwise
    (· < ·)
  decide

theorem ObjectMeta.toJson_sent (m : ObjectMeta) :
    m.toJson.sent = .record (m.sentFields m.resourceVersion) := by
  have hversion : (m.resourceVersion.map Json.str).map Json.sent
      = m.resourceVersion.map Json.str := by
    cases m.resourceVersion <;> rfl
  show (Json.record (m.fieldsBefore
    ++ ("resourceVersion", m.resourceVersion.map .str) :: m.fieldsAfter)).sent = _
  rw [Json.sent_record, List.map_append, List.map_cons, hversion]
  rfl

theorem Secret.toJson_sent (s : Secret) :
    s.toJson.sent = .record (s.sentFields s.metadata.toJson.sent) := by
  show (Json.record (s.fieldsBefore ++ ("metadata", some s.metadata.toJson) :: s.fieldsAfter)).sent
    = _
  rw [Json.sent_record, List.map_append, List.map_cons]
  rfl

/-- A field of a written secret. -/
theorem Secret.field_toJson (s : Secret) {name : String} {o : Option Json}
    (h : (name, o) ∈ s.sentFields s.metadata.toJson.sent) :
    s.toJson.sent.field name = o.getD .null := by
  rw [toJson_sent]
  exact Json.field_record (s.inOrder_sentFields _).nodup h

/-- A field of written metadata. -/
theorem ObjectMeta.field_toJson (m : ObjectMeta) {name : String} {o : Option Json}
    (h : (name, o) ∈ m.sentFields m.resourceVersion) :
    m.toJson.sent.field name = o.getD .null := by
  rw [toJson_sent]
  exact Json.field_record (m.inOrder_sentFields _).nodup h

theorem Secret.metadata_toJson (s : Secret) :
    s.toJson.sent.field "metadata" = s.metadata.toJson.sent :=
  s.field_toJson (List.mem_append_right _ List.mem_cons_self)

theorem isKeyed_toJson (s : Secret) : IsKeyed s.toJson.sent := by
  refine ⟨?_, ?_⟩
  · rw [Secret.toJson_sent]
    exact Json.sorted_present (s.inOrder_sentFields _)
  · rw [Secret.metadata_toJson, ObjectMeta.toJson_sent]
    exact Json.sorted_present (s.metadata.inOrder_sentFields _)

/-! ## §4. What a written secret shows. -/

theorem decodeBytes_value (bytes : Bytes) :
    Secret.decodeBytes.value (.str (Text.Base64.encode bytes)) = .ok bytes := by
  simp [Secret.decodeBytes, scalar, Text.Base64.decode_encode]

theorem table_decodeBytes (d : Details) :
    (table Secret.decodeBytes).value (Secret.dataToJson d) = .ok d := by
  have hdata : Secret.dataToJson d
      = .ofDict (d.mapValues fun b => .str (Text.Base64.encode b)) := by
    simp [Secret.dataToJson, Json.ofTexts, Json.ofDict, Dict.mapValues, List.map_map]
  rw [hdata]
  exact table_value d fun e _ => decodeBytes_value e.2

theorem sent_dataToJson (d : Details) : (Secret.dataToJson d).sent = Secret.dataToJson d :=
  Json.sent_ofTexts _

/-- The data of a written secret is its own. -/
theorem Secret.dataOf_toJson (s : Secret) : Secret.dataOf s.toJson.sent = s.details := by
  have hfield : s.toJson.sent.field "data" = ((s.data.map dataToJson).map Json.sent).getD .null :=
    s.field_toJson (by simp [sentFields, fieldsBefore, sentField])
  unfold dataOf details
  rw [Json.field_sent, hfield]
  cases s.data with
  | none => rfl
  | some d =>
      have hnull : dataToJson d ≠ .null := nofun
      simp only [Option.map_some, Option.getD_some, sent_dataToJson]
      rw [option_value hnull, table_decodeBytes]
      rfl

/-- The resource version of a written secret is its own. -/
theorem Secret.versionOf_toJson (s : Secret) :
    ApiServer.versionOf s.toJson.sent
      = (s.metadata.resourceVersion.map Json.str).getD .null := by
  unfold ApiServer.versionOf
  rw [metadata_toJson]
  exact s.metadata.field_toJson (List.mem_append_right _ List.mem_cons_self)

/-- The name of a written secret is its own. -/
theorem Secret.name_toJson (s : Secret) :
    ((s.toJson.sent.field "metadata").field "name").text? = s.metadata.name := by
  have hname : s.metadata.toJson.sent.field "name"
      = ((s.metadata.name.map Json.str).map Json.sent).getD .null :=
    s.metadata.field_toJson (by simp [ObjectMeta.sentFields, ObjectMeta.fieldsBefore, sentField])
  rw [metadata_toJson, hname]
  cases s.metadata.name <;> rfl

/-- Giving a written secret a version is writing the secret with that version. -/
theorem Secret.withVersion_toJson (s : Secret) (version : String) :
    ApiServer.withVersion s.toJson.sent version = (s.withVersion version).toJson.sent := by
  -- the version has its slot among the fields of the metadata, and these have theirs
  have hmetadata : s.metadata.toJson.sent.setField "resourceVersion" (.str version)
      = (s.withVersion version).metadata.toJson.sent := by
    rw [ObjectMeta.toJson_sent, ObjectMeta.toJson_sent]
    exact Json.put_record (s.metadata.inOrder_sentFields _) _
  unfold ApiServer.withVersion
  rw [metadata_toJson, hmetadata, toJson_sent, toJson_sent]
  exact Json.put_record (s.inOrder_sentFields _) _

end ConnectionRelay.Cluster
