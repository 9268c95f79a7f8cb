/-
  ConnectionRelay.Proofs.Cluster.DynamicConversion
  ────────────────────────────────────────────────
  **RESOURCES AND OBJECTS OF THE DYNAMIC API ARE CONVERTED WITHOUT LOSS.**

  However a resource was made, it has no typed name among the carried fields of its spec, and
  no `null` for a status; so it is turned into an object and back without loss.  An object
  that can be turned into a resource has its type apart from its data, or its document repeats
  a field of the type; then it has no type, and the resource finds one among the data.  What
  the resource makes of the spec and status of an object is what is read of them, and this is
  not changed any more by going back and forth.  Main statements:

    • `Resource.Obtained.toDynamic` — a resource is turned into an object and back,
    • `DynamicObject.takeTypes_some`, `takeTypes_none` — what taking the type leaves,
    • `DynamicObject.types_of_ofDynamic` — the type of an object that makes a resource,
    • `converted_without_loss` — both ways,
    • `two_kinds_make_a_type` — an object that gets its type on the way.
-/
import ConnectionRelay.Proofs.Cluster.KeptResource
import ConnectionRelay.Proofs.Wire.CarriedFields
import ConnectionRelay.Wire.Document

namespace ConnectionRelay

open Cluster Wire

/-! ## §1. From a resource to an object and back. -/

namespace Resource

/-- How resources come about: they are parsed, made anew, or made of an object, and then
their destination may be changed. -/
inductive Obtained : Resource → Prop where
  | parsed {r : Resource} (h : decode.Gives r) : Obtained r
  | named (type : TypeReference) (name : String) : Obtained (ofName type name)
  | converted {o : DynamicObject} {r : Resource} (h : ofDynamic o = .ok r) : Obtained r
  | redirected {r : Resource} (h : Obtained r) (d : Option Destination) :
      Obtained (r.withDestination d)

variable {r : Resource}

/-- No way to make a resource puts a typed name among the carried fields. -/
theorem Obtained.writable (h : Obtained r) : r.Writable := by
  induction h with
  | parsed h => exact writable_of_gives h
  | named type name => exact ⟨fun _ _ => rfl, nofun⟩
  | converted h => exact writable_of_gives (.inl ⟨_, h⟩)
  | redirected _ d ih => exact ⟨ih.spec, ih.status⟩

theorem Obtained.sound (h : Obtained r) : r.metadata.Sound := by
  induction h with
  | parsed h => exact sound_of_gives h
  | named type name =>
      refine ⟨?_, ?_, ?_, ?_, ?_⟩ <;> rintro _ ⟨⟩
  | converted h => exact sound_of_gives (.inl ⟨_, h⟩)
  | redirected _ d ih => exact ih

/-- Metadata that is read back has its times in whole seconds. -/
theorem whole_of_decode {m : ObjectMeta} (h : m.Sound)
    (hmeta : ObjectMeta.decode.value m.toJson = .ok m) : m.whole = m :=
  Except.ok.inj ((ObjectMeta.decode_toJson h).symm.trans hmeta)

/-- The data of an object that a resource is turned into: the spec, and the status if it is
set. -/
theorem get?_data_asDynamic (r : Resource) (k : String) : r.asDynamic.data.get? k
    = if k = "spec" then some r.spec.toJson else if k = "status" then r.status else none := by
  obtain ⟨type, metadata, spec, status⟩ := r
  cases status with
  | none =>
      show (Dict.empty.insert "spec" spec.toJson).get? k = _
      rw [Dict.get?_insert, Dict.get?_empty, ite_self]
  | some v =>
      show ((Dict.empty.insert "spec" spec.toJson).insert "status" v).get? k = _
      rw [Dict.get?_insert, Dict.get?_insert, Dict.get?_empty]
      by_cases hk : k = "spec"
      · subst hk
        rfl
      · rw [if_neg hk, if_neg hk]

/-- **A resource is turned into an object and back.** -/
theorem Obtained.toDynamic (h : Obtained r)
    (hmeta : ObjectMeta.decode.value r.metadata.toJson = .ok r.metadata) :
    r.toDynamic = .ok r.asDynamic ∧ r.asDynamic.metadata = r.metadata
      ∧ ofDynamic r.asDynamic = .ok r := by
  have hwhole : r.metadata.whole = r.metadata := whole_of_decode h.sound hmeta
  refine ⟨toDynamic_eq h.sound, hwhole, ?_⟩
  rw [ofDynamic_asDynamic h.writable h.sound, hwhole]

end Resource

/-! ## §2. Objects that were parsed. -/

namespace Cluster.DynamicObject

/-- A name of a field of the type. -/
def IsTypeName (k : String) : Prop := k = "apiVersion" ∨ k = "kind"

instance (k : String) : Decidable (IsTypeName k) := inferInstanceAs (Decidable (_ ∨ _))

/-- A field of the type is taken, or it ends the search; any other field is left. -/
theorem takeTypes_cons (seen : List String) (t : TypeReference) (e : String × Json)
    (rest : List (String × Json)) :
    IsTypeName e.1 ∧ (∃ seen' t', takeTypes seen t (e :: rest) = takeTypes seen' t' rest)
      ∨ IsTypeName e.1 ∧ takeTypes seen t (e :: rest) = (none, rest)
      ∨ ¬ IsTypeName e.1 ∧ takeTypes seen t (e :: rest)
          = ((takeTypes seen t rest).1, e :: (takeTypes seen t rest).2) := by
  obtain ⟨k, v⟩ := e
  rw [takeTypes.eq_def seen t ((k, v) :: rest)]
  dsimp only
  by_cases hk : k = "apiVersion" ∨ k = "kind"
  · rw [if_pos hk]
    split
    · exact .inl ⟨hk, _, _, rfl⟩
    · exact .inr (.inl ⟨hk, rfl⟩)
  · rw [if_neg hk]
    exact .inr (.inr ⟨hk, rfl⟩)

/-- What is left are fields of the document. -/
theorem mem_of_mem_takeTypes (es : List (String × Json)) :
    ∀ {seen : List String} {t : TypeReference}, ∀ e ∈ (takeTypes seen t es).2, e ∈ es := by
  induction es with
  | nil => exact fun e he => he
  | cons f es ih =>
      intro seen t e he
      rcases takeTypes_cons seen t f es with ⟨-, seen', t', heq⟩ | ⟨-, heq⟩ | ⟨-, heq⟩
      all_goals rw [heq] at he
      · exact List.mem_cons_of_mem _ (ih e he)
      · exact List.mem_cons_of_mem _ he
      · rcases List.mem_cons.1 he with rfl | he
        · exact List.mem_cons_self
        · exact List.mem_cons_of_mem _ (ih e he)

/-- If the type is found, none of its fields is left. -/
theorem takeTypes_some (es : List (String × Json)) :
    ∀ {seen : List String} {t found : TypeReference}, (takeTypes seen t es).1 = some found →
      ∀ e ∈ (takeTypes seen t es).2, ¬ IsTypeName e.1 := by
  induction es with
  | nil => exact fun _ => List.forall_mem_nil _
  | cons f es ih =>
      intro seen t found h
      rcases takeTypes_cons seen t f es with ⟨-, seen', t', heq⟩ | ⟨-, heq⟩ | ⟨hname, heq⟩
      all_goals rw [heq] at h ⊢
      · exact ih h
      · cases h
      · exact List.forall_mem_cons.2 ⟨hname, ih h⟩

/-- A field of the type is repeated. -/
def RepeatsType (es : List (String × Json)) : Prop :=
  ∃ k, IsTypeName k ∧ 2 ≤ (es.map Prod.fst).count k

theorem RepeatsType.cons {es : List (String × Json)} (h : RepeatsType es) (e : String × Json) :
    RepeatsType (e :: es) := by
  obtain ⟨k, hk, htwice⟩ := h
  exact ⟨k, hk, Nat.le_trans htwice (List.count_le_count_cons ..)⟩

theorem RepeatsType.of_mem {es : List (String × Json)} {e e' : String × Json}
    (hname : IsTypeName e.1) (hmem : e' ∈ es) (hsame : e'.1 = e.1) : RepeatsType (e :: es) := by
  refine ⟨e.1, hname, ?_⟩
  rw [List.map_cons, List.count_cons_self]
  exact Nat.succ_le_succ (List.count_pos_iff.2 (List.mem_map.2 ⟨e', hmem, hsame⟩))

/-- If the type is not found and its fields are not repeated, one of them is not left. -/
theorem takeTypes_none (es : List (String × Json)) :
    ∀ {seen : List String} {t : TypeReference}, (takeTypes seen t es).1 = none →
      ¬ RepeatsType es → ∃ k, IsTypeName k ∧ ∀ e ∈ (takeTypes seen t es).2, e.1 ≠ k := by
  induction es with
  | nil => exact fun _ _ => ⟨"kind", .inr rfl, List.forall_mem_nil _⟩
  | cons f es ih =>
      intro seen t h honce
      have hrest : ¬ RepeatsType es := fun htwice => honce (htwice.cons f)
      rcases takeTypes_cons seen t f es with ⟨-, seen', t', heq⟩ | ⟨hname, heq⟩ | ⟨hname, heq⟩
      all_goals rw [heq] at h ⊢
      · exact ih h hrest
      · -- the field that ended the search is gone, and is not repeated
        exact ⟨f.1, hname, fun e he hsame => honce (.of_mem hname he hsame)⟩
      · obtain ⟨k, hk, hnone⟩ := ih h hrest
        exact ⟨k, hk, List.forall_mem_cons.2 ⟨fun hsame => hname (hsame ▸ hk), hnone⟩⟩

variable {p : Partial}

/-- The metadata is not set aside with the other fields. -/
theorem keeps_names : shape.Keeps fun p => ∀ e ∈ p.others, e.1 ≠ "metadata" where
  declared := by
    refine List.forall_mem_singleton.2 fun g hg p hp => ?_
    obtain ⟨m, -, rfl⟩ := Field.gives_update hg
    exact hp
  others := by
    rintro put ⟨⟩ k v p hnone hp
    refine List.forall_mem_append.2 ⟨hp, List.forall_mem_singleton.2 ?_⟩
    rintro rfl
    cases hnone

theorem get?_data_metadata (h : (shape.decode {}).Gives p) :
    (ofPartial p).data.get? "metadata" = none := by
  have hnames := keeps_names.of_gives (List.forall_mem_nil _) h
  exact Dict.get?_insertMany_of_forall_ne .empty fun e he => hnames e (mem_of_mem_takeTypes _ e he)

/-- The fields of an object: the data, and then the metadata and the type. -/
theorem get?_toDict (o : DynamicObject) (k : String) : o.toDict.get? k = (o.data.get? k).or
    (if k = "metadata" then some o.metadata.toJson
      else o.types.bind fun t =>
        if k = "kind" then some (.str t.kind)
        else if k = "apiVersion" then some (.str t.apiVersion) else none) := by
  unfold toDict
  rw [Dict.get?_merge, Dict.get?_insert]
  cases o.types with
  | none => rfl
  | some t =>
      simp only [Dict.ofList, Dict.insertMany, List.foldl_cons, List.foldl_nil, Dict.get?_insert,
        Dict.get?_empty, Option.bind_some]

/-- A field that only the data can hold. -/
theorem field_toJson (o : DynamicObject) {k : String} (hmeta : k ≠ "metadata")
    (htype : ¬ IsTypeName k) : o.toJson.field k = (o.data.get? k).getD .null := by
  have hfield : o.toJson.field k = (o.toDict.get? k).getD .null := rfl
  obtain ⟨hversion, hkind⟩ := not_or.1 htype
  rw [hfield, get?_toDict, if_neg hmeta]
  cases o.types with
  | none => rw [Option.bind_none, Option.or_none]
  | some t => rw [Option.bind_some, if_neg hkind, if_neg hversion, Option.or_none]

/-- **The type of an object that makes a resource** is the resource's, or the object has none
and its document repeats a field of the type. -/
theorem types_of_ofDynamic {r : Resource} (h : Resource.ofDynamic (ofPartial p) = .ok r) :
    (ofPartial p).types = some r.type
      ∨ (ofPartial p).types = none ∧ RepeatsType p.others := by
  obtain ⟨hversion, hkind⟩ := Resource.type_of_decode h
  have hget (k : String) : Entries.find? k (ofPartial p).toJson.fields
      = (ofPartial p).toDict.get? k := rfl
  rw [hget, get?_toDict, if_neg (by decide)] at hversion hkind
  have habsent {k : String} (hk : ∀ e ∈ (takeTypes [] ⟨"", ""⟩ p.others).2, e.1 ≠ k) :
      (ofPartial p).data.get? k = none :=
    Dict.get?_insertMany_of_forall_ne .empty hk
  cases htypes : (ofPartial p).types with
  | none =>
      -- the resource has its type from the data, so no field of it is gone
      refine .inr ⟨rfl, Classical.byContradiction fun honce => ?_⟩
      rw [htypes] at hversion hkind
      obtain ⟨k, rfl | rfl, hk⟩ := takeTypes_none p.others htypes honce
      · rw [habsent hk] at hversion
        cases hversion
      · rw [habsent hk] at hkind
        cases hkind
  | some t =>
      have hleft := takeTypes_some p.others htypes
      rw [htypes, habsent fun e he hsame => hleft e he (.inl hsame)] at hversion
      rw [htypes, habsent fun e he hsame => hleft e he (.inr hsame)] at hkind
      obtain ⟨version, kind⟩ := t
      obtain hversion : version = r.type.apiVersion := by cases hversion; rfl
      obtain hkind : kind = r.type.kind := by cases hkind; rfl
      rw [hversion, hkind]
      exact .inl rfl

/-- The resource that an object makes has its metadata, if this is read back. -/
theorem metadata_of_ofDynamic {r : Resource} (hparsed : (shape.decode {}).Gives p)
    (h : Resource.ofDynamic (ofPartial p) = .ok r)
    (hmeta : ObjectMeta.decode.value (ofPartial p).metadata.toJson = .ok (ofPartial p).metadata) :
    r.metadata = (ofPartial p).metadata := by
  have hfind : Entries.find? "metadata" (ofPartial p).toJson.fields
      = some (ofPartial p).metadata.toJson := by
    show (ofPartial p).toDict.get? "metadata" = _
    rw [get?_toDict, get?_data_metadata hparsed]
    rfl
  exact Except.ok.inj ((Resource.metadata_of_decode h hfind).symm.trans hmeta)

end Cluster.DynamicObject

/-! ## §3. Both ways. -/

/-- **Resources and objects are converted without loss.**  A resource that was parsed, made
anew or made of an object, and whose destination was changed any number of times, is turned
into an object that has its type, its metadata, and for data the spec and the status if there
is one; of this object the same resource is made again.  If a resource is made of an object
that was parsed, then the object that the resource is turned into has the same type, unless
the parsed document repeats a field of the type and the object has none; it has the same
metadata, the spec with its two typed fields rewritten and empty if there was none, and the
status unless it was `null`; the same resource is made of it, so going back and forth again
changes nothing.  All this is said if the metadata, whose codec is the cluster's own, is read
back as it was written. -/
theorem converted_without_loss :
    (∀ r, Resource.Obtained r → ObjectMeta.decode.value r.metadata.toJson = .ok r.metadata →
      ∃ o, r.toDynamic = .ok o ∧ o.types = some r.type ∧ o.metadata = r.metadata
        ∧ (∀ k, o.data.get? k = if k = "spec" then some r.spec.toJson
            else if k = "status" then r.status else none)
        ∧ Resource.ofDynamic o = .ok r)
      ∧ ∀ p o r, (DynamicObject.shape.decode {}).Gives p → o = .ofPartial p →
        Resource.ofDynamic o = .ok r → ObjectMeta.decode.value o.metadata.toJson = .ok o.metadata →
        ∃ o', r.toDynamic = .ok o'
          ∧ (o'.types = o.types ∨ o.types = none ∧ DynamicObject.RepeatsType p.others)
          ∧ o'.metadata = o.metadata
          ∧ (∃ spec, o'.data.get? "spec" = some (.ofDict spec) ∧ ∀ k, spec.get? k
              = ConnectionSpec.rewrittenField ((o.data.get? "spec").getD .null) k)
          ∧ o'.data.get? "status" = ((o.data.get? "status").getD .null).present?
          ∧ Resource.ofDynamic o' = .ok r := by
  refine ⟨fun r hobtained hmeta => ?_, ?_⟩
  · obtain ⟨hobject, hmetadata, hback⟩ := hobtained.toDynamic hmeta
    exact ⟨r.asDynamic, hobject, rfl, hmetadata, r.get?_data_asDynamic, hback⟩
  · rintro p o r hparsed rfl hmade hmeta
    have hmetadata := DynamicObject.metadata_of_ofDynamic hparsed hmade hmeta
    obtain ⟨hobject, hsame, hback⟩ := (Resource.Obtained.converted hmade).toDynamic
      (by rw [hmetadata]; exact hmeta)
    have hfield {k : String} := @DynamicObject.field_toJson (.ofPartial p) k
    have hspec := @hfield "spec" (by decide) (by decide)
    have hstatus := @hfield "status" (by decide) (by decide)
    refine ⟨r.asDynamic, hobject, ?_, hsame.trans hmetadata,
      ⟨r.spec.toDict, r.get?_data_asDynamic "spec", fun k => ?_⟩, ?_, hback⟩
    · exact (DynamicObject.types_of_ofDynamic hmade).imp_left Eq.symm
    · rw [← hspec]
      exact Resource.spec_of_decode hmade k
    · rw [← hstatus]
      exact (r.get?_data_asDynamic "status").trans (Resource.status_of_decode hmade)

namespace Sample

/-- What is read of the cache's document as an object. -/
def cacheObject : DynamicObject.Partial where
  metadata := cache.metadata
  others :=
    [("kind", .str "XCache"), ("extra", .num (.int 7)), ("status", .null),
      ("spec", cacheDocument.field "spec"), ("apiVersion", .str "example.org/v1")]

/-- A text with two kinds, of which the first one is `null`. -/
def twoKinds : String :=
  "\x7b\"kind\":null,\"kind\":\"XDb\",\"apiVersion\":\"example.org/v1\","
    ++ "\"metadata\":\x7b\"name\":\"db\",\"uid\":\"u-1\"\x7d\x7d"

/-- The object that is read off the text. -/
def untyped : DynamicObject where
  types := none
  metadata := { name := some "db", uid := some "u-1" }
  data := .ofList [("kind", .str "XDb"), ("apiVersion", .str "example.org/v1")]

/-- The resource that is made of the object. -/
def typed : Resource where
  type := ⟨"example.org/v1", "XDb"⟩
  metadata := untyped.metadata

end Sample

open Sample in
/-- The cache without its destination goes to an object and back; of the object of its document
the cache is made, and the object of the cache has the type of the first one, but no longer a
status of `null`. -/
theorem cache_converted_without_loss :
    (∃ o, (cache.withDestination none).toDynamic = .ok o
        ∧ Resource.ofDynamic o = .ok (cache.withDestination none))
      ∧ DynamicObject.decode.value cacheDocument = .ok (.ofPartial cacheObject)
      ∧ ∃ o, cache.toDynamic = .ok o ∧ o.types = some ⟨"example.org/v1", "XCache"⟩
        ∧ o.data.get? "status" = none ∧ Resource.ofDynamic o = .ok cache := by
  obtain ⟨hthere, hback⟩ := converted_without_loss
  have hcache : Resource.decode.value cacheDocument = .ok cache := rfl
  have hparsed : (DynamicObject.shape.decode {}).value cacheDocument = .ok cacheObject := rfl
  have hmade : Resource.ofDynamic (.ofPartial cacheObject) = .ok cache := rfl
  have hfound : (DynamicObject.ofPartial cacheObject).types
      = some ⟨"example.org/v1", "XCache"⟩ := rfl
  obtain ⟨o, hobject, -, -, -, hsame⟩ := hthere (cache.withDestination none)
    (.redirected (.parsed (.inl ⟨_, hcache⟩)) none) rfl
  obtain ⟨o', hobject', htypes, -, -, hstatus, hsame'⟩ :=
    hback cacheObject _ cache (.inl ⟨_, hparsed⟩) rfl hmade rfl
  have hkept : o'.types = _ := htypes.resolve_right fun h => by cases hfound.symm.trans h.1
  exact ⟨⟨o, hobject, hsame⟩, rfl, o', hobject', hkept.trans hfound, hstatus.trans rfl, hsame'⟩

open Sample in
/-- An object gets a type on the way to a resource and back: the first of two kinds ends the
search for the type, and the second one is left among the data, where the resource finds it. -/
theorem two_kinds_make_a_type :
    DynamicObject.decode.document twoKinds = .ok untyped
      ∧ Resource.ofDynamic untyped = .ok typed
      ∧ ObjectMeta.decode.value untyped.metadata.toJson = .ok untyped.metadata
      ∧ ∃ o, typed.toDynamic = .ok o ∧ o.types = some ⟨"example.org/v1", "XDb"⟩
        ∧ o.types ≠ untyped.types := by
  have hread : DynamicObject.decode.document twoKinds = .ok untyped := rfl
  have hmade : Resource.ofDynamic untyped = .ok typed := rfl
  have hback : typed.toDynamic = .ok typed.asDynamic := rfl
  exact ⟨hread, hmade, rfl, typed.asDynamic, hback, rfl, nofun⟩

end ConnectionRelay
