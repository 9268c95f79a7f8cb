/-
  ConnectionRelay.Proofs.Cluster.KeptResource
  ───────────────────────────────────────────
  **RESOURCES GO THROUGH THE DYNAMIC API AND BACK.**

  A resource is turned into an object of the dynamic API, sent, and made of the answer again.
  Its type, destination and carried fields pass through all of this, and so does its
  metadata; only times lose their fractions, and what was sent as text has the numbers that
  reading the text gives.  Main statements:

    • `Resource.sent_toJson` — the resource that was sent is `Resource.kept`,
    • `Resource.kept_eq_iff` — it is the resource itself if its numbers are read back,
    • `Resource.toDynamic_eq`, `Resource.toJson_asDynamic` — the object of a resource is
      written as the resource is,
    • `Resource.ofDynamic_asDynamic` — the resource is made of it again.
-/
import ConnectionRelay.Proofs.Cluster.Metadata
import ConnectionRelay.Proofs.Wire.RoundTrip

namespace ConnectionRelay

open Cluster Wire

/-! ## §1. What sending makes of a resource. -/

namespace Json

theorem sent_ofDict (d : Dict Json) : (ofDict d).sent = ofDict (d.mapValues sent) := by
  simp only [ofDict, sent, sentFields_eq, Dict.mapValues]

/-- A field that is set is sent as the others are. -/
theorem sent_setField (v : Json) (name : String) (value : Json) :
    (v.setField name value).sent = v.sent.setField name value.sent := by
  -- the place of a field depends on the names alone, and these are sent as they are
  have hput (fs : List (String × Json)) :
      sentFields (Entries.put name value fs) = Entries.put name value.sent (sentFields fs) := by
    induction fs with
    | nil => rfl
    | cons f fs ih =>
        obtain ⟨k, w⟩ := f
        simp only [Entries.put, sentFields]
        split
        · rfl
        · split
          · rfl
          · rw [sentFields, ih]
  have hfields : v.sent.fields = sentFields v.fields := by cases v <;> rfl
  simp only [setField, sent, hput, hfields]

mutual

/-- The numbers in a value. -/
def numbers : Json → List JsonNumber
  | .num n => [n]
  | .arr items => numbersOfItems items
  | .obj fields => numbersOfFields fields
  | _ => []

/-- The numbers in some items. -/
def numbersOfItems : List Json → List JsonNumber
  | [] => []
  | v :: vs => numbers v ++ numbersOfItems vs

/-- The numbers in some fields. -/
def numbersOfFields : List (String × Json) → List JsonNumber
  | [] => []
  | (_, v) :: fs => numbers v ++ numbersOfFields fs

end

mutual

/-- **A value is sent as it is** if each of its numbers is. -/
theorem sent_eq_iff (v : Json) : v.sent = v ↔ ∀ n ∈ v.numbers, sentNumber n = n := by
  cases v with
  | null => exact iff_of_true rfl nofun
  | bool b => exact iff_of_true rfl nofun
  | str s => exact iff_of_true rfl nofun
  | num n => simp only [sent, numbers, num.injEq, List.forall_mem_singleton]
  | arr items => simp only [sent, numbers, arr.injEq, sentItems_eq_iff items]
  | obj fields => simp only [sent, numbers, obj.injEq, sentFields_eq_iff fields]

theorem sentItems_eq_iff (items : List Json) :
    sentItems items = items ↔ ∀ n ∈ numbersOfItems items, sentNumber n = n := by
  cases items with
  | nil => exact iff_of_true rfl nofun
  | cons v vs =>
      simp only [sentItems, numbersOfItems, List.cons.injEq, List.forall_mem_append,
        sent_eq_iff v, sentItems_eq_iff vs]

theorem sentFields_eq_iff (fields : List (String × Json)) :
    sentFields fields = fields ↔ ∀ n ∈ numbersOfFields fields, sentNumber n = n := by
  cases fields with
  | nil => exact iff_of_true rfl nofun
  | cons f fs =>
      obtain ⟨k, v⟩ := f
      simp only [sentFields, numbersOfFields, List.cons.injEq, Prod.mk.injEq, true_and,
        List.forall_mem_append, sent_eq_iff v, sentFields_eq_iff fs]

end

end Json

theorem Destination.sent_toJson (d : Destination) : d.toJson.sent = d.toJson := by
  have hconfig (o : Option Reference) :
      (o.map Reference.toJson).map Json.sent = o.map Reference.toJson := by
    cases o <;> rfl
  have hmetadata (o : Option SecretMetadata) :
      (o.map SecretMetadata.toJson).map Json.sent = o.map SecretMetadata.toJson := by
    cases o with
    | none => rfl
    | some m =>
        refine congrArg some ?_
        rw [SecretMetadata.toJson, Json.sent_record]
        simp only [List.map_cons, List.map_nil, map_sent_ofTexts, map_sent_str]
  unfold toJson
  rw [Json.sent_record]
  simp only [List.map_cons, List.map_nil, hconfig, hmetadata, Option.map_some, Json.sent_str]

namespace ConnectionSpec

/-- A spec as it is read back after it was sent. -/
def kept (s : ConnectionSpec) : ConnectionSpec := { s with fields := s.fields.mapValues Json.sent }

theorem sent_toJson (s : ConnectionSpec) : s.toJson.sent = s.kept.toJson := by
  have hdestination : (s.destination.map Destination.toJson).map Json.sent
      = s.destination.map Destination.toJson := by
    cases s.destination with
    | none => rfl
    | some d => exact congrArg some d.sent_toJson
  have hsecretRef : (s.secretRef.map SecretReference.toJson).map Json.sent
      = s.secretRef.map SecretReference.toJson := by
    cases s.secretRef <;> rfl
  unfold toJson
  rw [Json.sent_ofDict]
  refine congrArg Json.ofDict (Dict.ext fun k => ?_)
  rw [Dict.get?_mapValues, get?_toDict, get?_toDict, kept, Dict.get?_mapValues]
  cases s.fields.get? k with
  | some v => rfl
  | none =>
      simp only [Option.none_or, Option.map_none]
      split
      · exact hdestination
      · split
        · exact hsecretRef
        · rfl

theorem Apart.kept {s : ConnectionSpec} (h : s.Apart) : s.kept.Apart := by
  intro k hk
  rw [ConnectionSpec.kept, Dict.get?_mapValues, h k hk]
  rfl

end ConnectionSpec

namespace Resource

variable {r : Resource}

/-- A resource as it is read back after it was sent. -/
def kept (r : Resource) : Resource :=
  { r with metadata := r.metadata.kept, spec := r.spec.kept, status := r.status.map Json.sent }

/-- **The resource that was sent** is the resource that is kept. -/
theorem sent_toJson (r : Resource) : r.toJson.sent = r.kept.toJson := by
  unfold toJson kept
  rw [Json.sent_record]
  simp only [List.map_cons, List.map_nil, Option.map_some, Json.sent_str, ObjectMeta.sent_toJson,
    ConnectionSpec.sent_toJson]

theorem Writable.kept (h : r.Writable) : r.kept.Writable := by
  refine ⟨h.spec.kept, fun hnull => ?_⟩
  obtain ⟨v, hv, hsent⟩ := Option.map_eq_some_iff.1 hnull
  cases v with
  | null => exact h.status hv
  | _ => cases hsent

/-- The numbers that a resource carries. -/
def numbers (r : Resource) : List JsonNumber :=
  (Json.ofDict r.spec.fields).numbers ++ (r.status.map Json.numbers).getD []

/-- **A resource is kept as it is** if its metadata is, and each number that it carries. -/
theorem kept_eq_iff (hmetadata : r.metadata.kept = r.metadata) :
    r.kept = r ↔ ∀ n ∈ r.numbers, Json.sentNumber n = n := by
  obtain ⟨type, metadata, ⟨destination, secretRef, fields⟩, status⟩ := r
  obtain hmetadata : metadata.kept = metadata := hmetadata
  have hfields : fields.mapValues Json.sent = fields
      ↔ ∀ n ∈ (Json.ofDict fields).numbers, Json.sentNumber n = n := by
    rw [← Json.sent_eq_iff, Json.sent_ofDict]
    refine ⟨congrArg Json.ofDict, fun h => Dict.ext fun k => ?_⟩
    exact congrArg (fun v : Json => Entries.find? k v.fields) h
  have hstatus : status.map Json.sent = status
      ↔ ∀ n ∈ (status.map Json.numbers).getD [], Json.sentNumber n = n := by
    cases status with
    | none => exact iff_of_true rfl nofun
    | some v => exact Option.some_inj.trans v.sent_eq_iff
  simp only [kept, ConnectionSpec.kept, numbers, hmetadata, Resource.mk.injEq,
    ConnectionSpec.mk.injEq, true_and, List.forall_mem_append, hfields, hstatus]

theorem field_metadata (r : Resource) : r.toJson.field "metadata" = r.metadata.toJson :=
  @Json.field_record r.written "metadata" (some r.metadata.toJson) r.inOrder_written.nodup
    (by simp [written])

/-- A resource with another resource version. -/
def withVersion (r : Resource) (version : String) : Resource :=
  { r with metadata := { r.metadata with resourceVersion := some version } }

/-- Giving a written resource a version is writing the resource with that version. -/
theorem withVersion_toJson (r : Resource) (version : String) :
    (ApiServer.withVersion r.toJson version).sent = (r.withVersion version).toJson.sent := by
  have hmetadata : r.metadata.toJson.sent.setField "resourceVersion" (.str version)
      = (r.withVersion version).metadata.toJson.sent := by
    rw [ObjectMeta.toJson_sent, ObjectMeta.toJson_sent]
    exact Json.put_record (r.metadata.inOrder_sentFields _) _
  have horder : Json.InOrder
      ([("apiVersion", some (.str r.type.apiVersion)), ("kind", some (.str r.type.kind))]
        ++ ("metadata", some r.metadata.toJson.sent)
          :: [("spec", some r.spec.toJson.sent), ("status", r.status.map Json.sent)]) := by
    show ["apiVersion", "kind", "metadata", "spec", "status"].Pairwise (· < ·)
    decide
  unfold ApiServer.withVersion
  rw [Json.sent_setField, field_metadata, Json.sent_setField, Json.sent_str, hmetadata]
  unfold toJson
  rw [Json.sent_record, Json.sent_record]
  exact Json.put_record horder _

/-! ## §2. Objects of the dynamic API. -/

end Resource

namespace Cluster.DynamicObject

theorem owns_metadata : shape.Owns Partial.metadata "metadata" :=
  List.forall_mem_singleton.2 fun hne => absurd rfl hne

theorem spares_metadata : shape.Spares Partial.metadata := by
  rintro put ⟨⟩ k v p
  rfl

/-- The undeclared fields of an object are set aside in their order. -/
theorem collects_others : shape.Collects Partial.others fun others e => others ++ [e] where
  declared := List.forall_mem_singleton.2 fun _ _ _ hg => Field.leaves hg fun _ _ => rfl
  kept := ⟨_, rfl, fun _ _ _ => rfl⟩

end Cluster.DynamicObject

namespace Resource

variable {r : Resource}

/-- The object of a resource. -/
def asDynamic (r : Resource) : DynamicObject where
  types := some r.type
  metadata := r.metadata.whole
  data := .ofList (Json.present [("spec", some r.spec.toJson), ("status", r.status)])

theorem keeps_sound : shape.Keeps fun p => p.metadata.Sound where
  declared := by
    refine List.forall_mem_cons.2 ⟨fun g hg p _ => ?_, List.forall_mem_cons.2
      ⟨fun g hg p hp => ?_, List.forall_mem_singleton.2 fun g hg p hp => ?_⟩⟩
    · obtain ⟨m, hm, rfl⟩ := Field.gives_update hg
      exact ObjectMeta.sound_of_gives hm
    · obtain ⟨spec, -, rfl⟩ := Field.gives_update hg
      exact hp
    · obtain ⟨status, -, rfl⟩ := Field.gives_update hg
      exact hp
  others := by
    rintro put ⟨⟩ k v p - hp
    exact hp

/-- **The metadata of a resource that was read** is sound. -/
theorem sound_of_gives (h : decode.Gives r) : r.metadata.Sound := by
  obtain ⟨p, hp, hr⟩ := h.of_andThen
  obtain ⟨type, -, hsame⟩ := bind_eq_ok.1 hr
  cases hsame
  exact keeps_sound.of_gives ObjectMeta.sound_empty hp

/-- The fields of a written resource that an object takes along. -/
theorem undeclared_dynamic (r : Resource) :
    DynamicObject.shape.undeclared (Json.present r.written)
      = ("apiVersion", .str r.type.apiVersion) :: ("kind", .str r.type.kind)
        :: Json.present [("spec", some r.spec.toJson), ("status", r.status)] := by
  unfold written
  cases r.status <;> rfl

/-- **A resource has an object.** -/
theorem toDynamic_eq (h : r.metadata.Sound) : r.toDynamic = .ok r.asDynamic := by
  have hmeta := ObjectMeta.decode_toJson h
  have hnodup := r.inOrder_written.nodup
  -- of the written fields only the metadata could be refused
  have haccepts : ∀ e ∈ Json.present r.written, DynamicObject.shape.Accepts e := by
    refine Shape.accepts_present (List.forall_mem_cons.2 ⟨fun v _ => ?_, List.forall_mem_cons.2
      ⟨fun v _ => ?_, List.forall_mem_cons.2 ⟨?_, List.forall_mem_cons.2 ⟨fun v _ => ?_,
        List.forall_mem_singleton.2 fun v _ => ?_⟩⟩⟩⟩)
    · exact Shape.accepts_undeclared rfl v
    · exact Shape.accepts_undeclared rfl v
    · rintro v ⟨⟩
      exact Shape.accepts_declared rfl (Decoder.value_map hmeta)
    · exact Shape.accepts_undeclared rfl v
    · exact Shape.accepts_undeclared rfl v
  obtain ⟨p, htake⟩ : ∃ p, DynamicObject.shape.take {} (.obj (Json.present r.written)) = .ok p :=
    Shape.exists_take {} (Entries.nodup_of_sorted (Json.sorted_present r.inOrder_written))
      haccepts (List.forall_mem_singleton.2 nofun)
  have hmetadata : p.metadata = r.metadata.whole := by
    have hsays := Shape.take_says_unrepeated DynamicObject.owns_metadata
      DynamicObject.spares_metadata rfl rfl htake
    rw [Json.find?_present hnodup (o := some r.metadata.toJson) (by simp [written])] at hsays
    exact hsays.there rfl (fun _ _ => rfl) hmeta
  have hothers := DynamicObject.collects_others.take_kept htake
  rw [undeclared_dynamic] at hothers
  refine map_eq_ok.2 ⟨p, htake, ?_⟩
  unfold DynamicObject.ofPartial asDynamic
  rw [hothers, hmetadata]
  cases r.status <;> rfl

/-- The object of a resource is written as the resource is. -/
theorem toJson_asDynamic (r : Resource) : r.asDynamic.toJson = r.toJson := by
  have hmeta : r.asDynamic.metadata.toJson = r.metadata.toJson := r.metadata.toJson_whole
  unfold DynamicObject.toJson DynamicObject.toDict
  rw [hmeta]
  unfold asDynamic toJson
  -- the fields are put at their places one by one
  cases r.status <;>
    simp +decide only [Json.ofDict, Json.record, Json.present, Dict.ofList, Dict.merge,
      Dict.insertMany, Dict.insert, Dict.empty, Entries.put, List.filterMap_cons,
      List.filterMap_nil, List.foldl_cons, List.foldl_nil, Option.map_some, Option.map_none,
      if_false]

/-- **A resource is made of its object again.** -/
theorem ofDynamic_asDynamic (hwritable : r.Writable) (h : r.metadata.Sound) :
    ofDynamic r.asDynamic = .ok { r with metadata := r.metadata.whole } := by
  rw [ofDynamic, toJson_asDynamic]
  exact hwritable.decode_toJson (ObjectMeta.decode_toJson h)

end Resource

end ConnectionRelay
