/-
  ConnectionRelay.Proofs.Wire.RoundTrip
  ─────────────────────────────────────
  **WHAT WAS READ IS READ BACK.**

  Every wire type is read back from what is written of it.  Specs and resources could hold
  what cannot be written, a typed name among the carried fields or `null` for a status; what
  was read never does.  The metadata of a cluster object has a codec of its own, so objects
  are read back as far as their metadata is.  Main statements:

    • `ConnectionSpec.decode_toJson`, `Resource.decode_toJson`, `Composition.decode_toJson`,
    • `read_back_as_written` — all wire types, whatever document they were read from.
-/
import ConnectionRelay.Proofs.Cluster.ReadResource
import ConnectionRelay.Proofs.Wire.Records

namespace ConnectionRelay

open Wire

/-! ## §1. Specs. -/

namespace ConnectionSpec

/-- No carried field has the name of a typed one. -/
def Apart (s : ConnectionSpec) : Prop := ∀ k, shape.field? k ≠ none → s.fields.get? k = none

theorem keeps_apart : shape.Keeps Apart where
  declared := by
    refine List.forall_mem_cons.2 ⟨?_, List.forall_mem_singleton.2 ?_⟩
    all_goals
      intro g hg s hs
      obtain ⟨o, -, rfl⟩ := Field.gives_update hg
      exact hs
  others := by
    rintro put ⟨⟩ k v s hnone hs q hq
    have hne : q ≠ k := by
      rintro rfl
      exact hq hnone
    show (s.fields.insert k v).get? q = none
    rw [Dict.get?_insert, if_neg hne]
    exact hs q hq

/-- **A spec that was read** carries no field with a typed name. -/
theorem apart_of_gives {s : ConnectionSpec} (h : decode.Gives s) : s.Apart :=
  keeps_apart.of_gives (fun _ _ => rfl) h

theorem owns_secretRef : shape.Owns secretRef "writeConnectionSecretToRef" :=
  List.forall_mem_cons.2 ⟨fun _ _ _ _ hg => Field.leaves hg fun _ _ => rfl,
    List.forall_mem_singleton.2 fun hne => absurd rfl hne⟩

theorem spares_secretRef : shape.Spares secretRef := by
  rintro put ⟨⟩ k v s
  rfl

/-- The carried fields are the undeclared ones. -/
theorem collects_fields : shape.Collects fields fun d e => d.insert e.1 e.2 where
  declared := List.forall_mem_cons.2 ⟨fun _ _ _ hg => Field.leaves hg fun _ _ => rfl,
    List.forall_mem_singleton.2 fun _ _ _ hg => Field.leaves hg fun _ _ => rfl⟩
  kept := ⟨_, rfl, fun _ _ _ => rfl⟩

/-- The fields of a spec: the carried ones, and then the typed ones that are set. -/
theorem get?_toDict (s : ConnectionSpec) (k : String) :
    s.toDict.get? k = (s.fields.get? k).or
      (if k = "publishConnectionDetailsTo" then s.destination.map Destination.toJson
        else if k = "writeConnectionSecretToRef" then s.secretRef.map SecretReference.toJson
        else none) := by
  unfold toDict
  rw [Dict.get?_merge]
  congr 1
  cases s.destination <;> cases s.secretRef <;>
    simp only [List.filterMap_cons, List.filterMap_nil, Option.map_none, Option.map_some,
      Dict.ofList, Dict.insertMany, List.foldl_cons, List.foldl_nil, Dict.get?_insert,
      Dict.get?_empty] <;>
    grind

theorem field?_ne_none_iff {k : String} :
    shape.field? k ≠ none
      ↔ k = "publishConnectionDetailsTo" ∨ k = "writeConnectionSecretToRef" := by
  simp [Shape.field?, shape, Shape.extensible, Field.optional, Field.defaulted, List.find?_cons]
  grind

variable {s : ConnectionSpec}

theorem Apart.get?_destination (h : s.Apart) :
    s.toDict.get? "publishConnectionDetailsTo" = s.destination.map Destination.toJson := by
  rw [get?_toDict, h _ (field?_ne_none_iff.2 (.inl rfl))]
  rfl

theorem Apart.get?_secretRef (h : s.Apart) :
    s.toDict.get? "writeConnectionSecretToRef" = s.secretRef.map SecretReference.toJson := by
  rw [get?_toDict, h _ (field?_ne_none_iff.2 (.inr rfl))]
  rfl

/-- Written fields that are not declared are the carried ones. -/
theorem Apart.undeclared (h : s.Apart) : shape.undeclared s.toDict.entries = s.fields.entries := by
  have hfilter : s.toDict.filterKeys (fun k => (shape.field? k).isNone) = s.fields := by
    ext1 k
    rw [Dict.get?_filterKeys]
    by_cases hdeclared : shape.field? k = none
    · have hk := not_or.1 fun hor => field?_ne_none_iff.2 hor hdeclared
      rw [if_pos (by rw [hdeclared]; rfl), get?_toDict, if_neg hk.1, if_neg hk.2, Option.or_none]
    · rw [h k hdeclared, if_neg (by simpa using hdeclared)]
  exact congrArg Dict.entries hfilter

theorem Apart.accepts (h : s.Apart) : ∀ e ∈ s.toDict.entries, shape.Accepts e := by
  rintro ⟨k, v⟩ hmem
  have hget : s.toDict.get? k = some v := Entries.find?_eq_some_of_mem s.toDict.sorted hmem
  by_cases hdeclared : shape.field? k = none
  · exact Shape.accepts_undeclared hdeclared v
  rcases field?_ne_none_iff.1 hdeclared with rfl | rfl
  · rw [h.get?_destination] at hget
    obtain ⟨d, -, rfl⟩ := Option.map_eq_some_iff.1 hget
    exact Shape.accepts_optional rfl d.decode_toJson nofun
  · rw [h.get?_secretRef] at hget
    obtain ⟨r, -, rfl⟩ := Option.map_eq_some_iff.1 hget
    exact Shape.accepts_optional rfl r.decode_toJson nofun

/-- **A spec is read back** if its carried fields have no typed name. -/
theorem Apart.decode_toJson (h : s.Apart) : decode.value s.toJson = .ok s := by
  obtain ⟨s', htake⟩ : ∃ s', shape.take {} (.obj s.toDict.entries) = .ok s' :=
    Shape.exists_take {} (Entries.nodup_of_sorted s.toDict.sorted) h.accepts
      (List.forall_mem_cons.2 ⟨nofun, List.forall_mem_singleton.2 nofun⟩)
  have hdestination : s'.destination = s.destination := by
    have hsays := Shape.take_says_unrepeated owns_destination spares_destination rfl rfl htake
    rw [show Entries.find? _ s.toDict.entries = _ from h.get?_destination] at hsays
    exact hsays.optional (fun _ _ => rfl) rfl fun d _ => ⟨d.decode_toJson, nofun⟩
  have hsecretRef : s'.secretRef = s.secretRef := by
    have hsays := Shape.take_says_unrepeated owns_secretRef spares_secretRef rfl rfl htake
    rw [show Entries.find? _ s.toDict.entries = _ from h.get?_secretRef] at hsays
    exact hsays.optional (fun _ _ => rfl) rfl fun r _ => ⟨r.decode_toJson, nofun⟩
  have hfields : s'.fields = s.fields := by
    rw [collects_fields.take_kept htake, h.undeclared]
    exact s.fields.empty_merge
  have hsame : s' = s := by
    obtain ⟨destination, secretRef, fields⟩ := s
    obtain ⟨destination', secretRef', fields'⟩ := s'
    cases hdestination
    cases hsecretRef
    cases hfields
    rfl
  rw [← hsame] at htake ⊢
  exact htake

end ConnectionSpec

/-! ## §2. Resources. -/

namespace Resource

/-- A resource that can be written without loss, its metadata left aside. -/
structure Writable (r : Resource) : Prop where
  spec : r.spec.Apart
  status : r.status ≠ some .null

theorem keeps_writable : shape.Keeps fun p => p.spec.Apart ∧ p.status ≠ some .null where
  declared := by
    refine List.forall_mem_cons.2 ⟨fun g hg p hp => ?_, List.forall_mem_cons.2
      ⟨fun g hg p hp => ?_, List.forall_mem_singleton.2 fun g hg p hp => ?_⟩⟩
    · obtain ⟨m, -, rfl⟩ := Field.gives_update hg
      exact hp
    · obtain ⟨spec, hspec, rfl⟩ := Field.gives_update hg
      exact ⟨ConnectionSpec.apart_of_gives hspec, hp.2⟩
    · obtain ⟨status, hstatus, rfl⟩ := Field.gives_update hg
      refine ⟨hp.1, ?_⟩
      rintro rfl
      exact ne_null_of_gives hstatus rfl
  others := by
    rintro put ⟨⟩ k v p - hp
    exact hp

/-- **A resource that was read** can be written without loss. -/
theorem writable_of_gives {r : Resource} (h : decode.Gives r) : r.Writable := by
  obtain ⟨p, hp, hr⟩ := h.of_andThen
  obtain ⟨type, -, hsame⟩ := bind_eq_ok.1 hr
  cases hsame
  obtain ⟨hspec, hstatus⟩ := keeps_writable.of_gives
    ⟨fun _ _ => rfl, (Option.some_ne_none Json.null).symm⟩ hp
  exact ⟨hspec, hstatus⟩

theorem owns_metadata : shape.Owns Partial.metadata "metadata" :=
  List.forall_mem_cons.2 ⟨fun hne => absurd rfl hne, List.forall_mem_cons.2
    ⟨fun _ _ _ _ hg => Field.leaves hg fun _ _ => rfl, List.forall_mem_singleton.2
      fun _ _ _ _ hg => Field.leaves hg fun _ _ => rfl⟩⟩

theorem owns_status : shape.Owns Partial.status "status" :=
  List.forall_mem_cons.2 ⟨fun _ _ _ _ hg => Field.leaves hg fun _ _ => rfl, List.forall_mem_cons.2
    ⟨fun _ _ _ _ hg => Field.leaves hg fun _ _ => rfl, List.forall_mem_singleton.2
      fun hne => absurd rfl hne⟩⟩

theorem spares {γ : Type} {part : Partial → γ}
    (h : ∀ p others, part { p with others := others } = part p) : shape.Spares part := by
  rintro put ⟨⟩ k v p
  exact h p _

/-- The undeclared fields of a resource are set aside in their order. -/
theorem collects_others : shape.Collects Partial.others fun others e => others ++ [e] where
  declared := List.forall_mem_cons.2 ⟨fun _ _ _ hg => Field.leaves hg fun _ _ => rfl,
    List.forall_mem_cons.2 ⟨fun _ _ _ hg => Field.leaves hg fun _ _ => rfl,
      List.forall_mem_singleton.2 fun _ _ _ hg => Field.leaves hg fun _ _ => rfl⟩⟩
  kept := ⟨_, rfl, fun _ _ _ => rfl⟩

/-- The fields of a written resource. -/
def written (r : Resource) : List (String × Option Json) :=
  [("apiVersion", some (.str r.type.apiVersion)), ("kind", some (.str r.type.kind)),
   ("metadata", some r.metadata.toJson), ("spec", some r.spec.toJson), ("status", r.status)]

theorem inOrder_written (r : Resource) : Json.InOrder r.written := by
  show ["apiVersion", "kind", "metadata", "spec", "status"].Pairwise (· < ·)
  decide

theorem undeclared_written (r : Resource) :
    shape.undeclared (Json.present r.written)
      = [("apiVersion", .str r.type.apiVersion), ("kind", .str r.type.kind)] := by
  unfold written
  cases r.status <;> rfl

theorem Writable.accepts {r : Resource} (h : r.Writable) {m : Cluster.ObjectMeta}
    (hmeta : Cluster.ObjectMeta.decode.value r.metadata.toJson = .ok m) :
    ∀ e ∈ Json.present r.written, shape.Accepts e := by
  refine Shape.accepts_present (List.forall_mem_cons.2 ⟨fun v _ => ?_, List.forall_mem_cons.2
    ⟨fun v _ => ?_, List.forall_mem_cons.2 ⟨?_, List.forall_mem_cons.2 ⟨?_,
      List.forall_mem_singleton.2 fun v hv => ?_⟩⟩⟩⟩)
  · exact Shape.accepts_undeclared rfl v
  · exact Shape.accepts_undeclared rfl v
  · rintro v ⟨⟩
    exact Shape.accepts_declared rfl (Decoder.value_map hmeta)
  · rintro v ⟨⟩
    exact Shape.accepts_declared rfl (Decoder.value_map h.spec.decode_toJson)
  · have hnull : v ≠ .null := by
      rintro rfl
      exact h.status hv
    exact Shape.accepts_optional rfl rfl hnull

/-- **A resource is read back**, with the metadata that is read of its own. -/
theorem Writable.decode_toJson {r : Resource} (h : r.Writable) {m : Cluster.ObjectMeta}
    (hmeta : Cluster.ObjectMeta.decode.value r.metadata.toJson = .ok m) :
    decode.value r.toJson = .ok { r with metadata := m } := by
  have hnodup := r.inOrder_written.nodup
  obtain ⟨p, htake⟩ : ∃ p, shape.take {} (.obj (Json.present r.written)) = .ok p :=
    Shape.exists_take {} (Entries.nodup_of_sorted (Json.sorted_present r.inOrder_written))
      (h.accepts hmeta) (List.forall_mem_cons.2 ⟨nofun, List.forall_mem_cons.2
        ⟨nofun, List.forall_mem_singleton.2 nofun⟩⟩)
  have hmetadata : p.metadata = m := by
    have hsays := Shape.take_says_unrepeated owns_metadata (spares fun _ _ => rfl) rfl rfl htake
    rw [Json.find?_present hnodup (o := some r.metadata.toJson) (by simp [written])] at hsays
    exact hsays.there rfl (fun _ _ => rfl) hmeta
  have hspec : p.spec = r.spec := by
    have hsays := Shape.take_says_unrepeated owns_spec spares_spec rfl rfl htake
    rw [Json.find?_present hnodup (o := some r.spec.toJson) (by simp [written])] at hsays
    exact hsays.there rfl (fun _ _ => rfl) h.spec.decode_toJson
  have hstatus : p.status = r.status := by
    have hsays := Shape.take_says_unrepeated owns_status (spares fun _ _ => rfl) rfl rfl htake
    rw [Json.find?_present hnodup (o := r.status.map id) (by simp [written])] at hsays
    refine hsays.optional (fun _ _ => rfl) rfl fun v hv => ⟨rfl, ?_⟩
    rintro rfl
    exact h.status hv
  have hothers := collects_others.take_kept htake
  rw [undeclared_written] at hothers
  refine bind_eq_ok.2 ⟨p, htake, bind_eq_ok.2 ⟨r.type, ?_, ?_⟩⟩
  · rw [hothers]
    rfl
  · rw [hmetadata, hspec, hstatus]
    rfl

end Resource

/-! ## §3. Compositions. -/

namespace Composition

theorem owns_metadata : shape.Owns metadata "metadata" :=
  List.forall_mem_cons.2 ⟨fun hne => absurd rfl hne, List.forall_mem_singleton.2
    fun _ _ _ _ hg => Field.leaves hg fun _ _ => rfl⟩

theorem owns_spec : shape.Owns spec "spec" :=
  List.forall_mem_cons.2 ⟨fun _ _ _ _ hg => Field.leaves hg fun _ _ => rfl,
    List.forall_mem_singleton.2 fun hne => absurd rfl hne⟩

/-- The fields of a written composition. -/
def written (c : Composition) : List (String × Option Json) :=
  [("apiVersion", some (.str apiVersion)), ("kind", some (.str kind)),
   ("metadata", some c.metadata.toJson), ("spec", some c.spec.toJson)]

theorem inOrder_written (c : Composition) : Json.InOrder c.written := by
  show ["apiVersion", "kind", "metadata", "spec"].Pairwise (· < ·)
  decide

/-- **A composition is read back**, with the metadata that is read of its own. -/
theorem decode_toJson (c : Composition) {m : Cluster.ObjectMeta}
    (hmeta : Cluster.ObjectMeta.decode.value c.metadata.toJson = .ok m) :
    decode.value c.toJson = .ok { c with metadata := m } := by
  have hnodup := c.inOrder_written.nodup
  have haccepts : ∀ e ∈ Json.present c.written, shape.Accepts e := by
    refine Shape.accepts_present (List.forall_mem_cons.2 ⟨fun v _ => ?_, List.forall_mem_cons.2
      ⟨fun v _ => ?_, List.forall_mem_cons.2 ⟨?_, List.forall_mem_singleton.2 ?_⟩⟩⟩)
    · exact Shape.accepts_undeclared rfl v
    · exact Shape.accepts_undeclared rfl v
    · rintro v ⟨⟩
      exact Shape.accepts_declared rfl (Decoder.value_map hmeta)
    · rintro v ⟨⟩
      exact Shape.accepts_declared rfl (Decoder.value_map c.spec.decode_toJson)
  obtain ⟨c', htake⟩ : ∃ c', shape.take { metadata := {}, spec := { compositeType := ⟨"", ""⟩ } }
      (.obj (Json.present c.written)) = .ok c' :=
    Shape.exists_take _ (Entries.nodup_of_sorted (Json.sorted_present c.inOrder_written)) haccepts
      (List.forall_mem_cons.2 ⟨fun _ => List.mem_cons_of_mem _ (List.mem_cons_of_mem _
        List.mem_cons_self), List.forall_mem_singleton.2 fun _ => List.mem_cons_of_mem _
          (List.mem_cons_of_mem _ (List.mem_cons_of_mem _ List.mem_cons_self))⟩)
  have hmetadata : c'.metadata = m := by
    have hsays :=
      Shape.take_says_unrepeated owns_metadata (Shape.spares_of_skipped rfl) rfl rfl htake
    rw [Json.find?_present hnodup (o := some c.metadata.toJson) (by simp [written])] at hsays
    exact hsays.there rfl (fun _ _ => rfl) hmeta
  have hspec : c'.spec = c.spec := by
    have hsays := Shape.take_says_unrepeated owns_spec (Shape.spares_of_skipped rfl) rfl rfl htake
    rw [Json.find?_present hnodup (o := some c.spec.toJson) (by simp [written])] at hsays
    exact hsays.there rfl (fun _ _ => rfl) c.spec.decode_toJson
  rw [← hmetadata, ← hspec]
  exact htake

end Composition

/-! ## §4. All wire types. -/

/-- A wire type: how it is read, how it is written, and the metadata of a cluster object that
a value of it holds. -/
structure WireType where
  Value : Type
  decode : Decoder Value
  toJson : Value → Json
  metadata? : Value → Option Cluster.ObjectMeta

/-- The wire types of the relay. -/
def wireTypes : List WireType :=
  [⟨Reference, Reference.decode, Reference.toJson, fun _ => none⟩,
   ⟨SecretReference, SecretReference.decode, SecretReference.toJson, fun _ => none⟩,
   ⟨TypeReference, TypeReference.decode, TypeReference.toJson, fun _ => none⟩,
   ⟨SecretMetadata, SecretMetadata.decode, SecretMetadata.toJson, fun _ => none⟩,
   ⟨Destination, Destination.decode, Destination.toJson, fun _ => none⟩,
   ⟨DetailType, DetailType.decode, DetailType.toJson, fun _ => none⟩,
   ⟨Declaration, Declaration.decode, Declaration.toJson, fun _ => none⟩,
   ⟨Template, Template.decode, Template.toJson, fun _ => none⟩,
   ⟨CompositionSpec, CompositionSpec.decode, CompositionSpec.toJson, fun _ => none⟩,
   ⟨Composition, Composition.decode, Composition.toJson, fun c => some c.metadata⟩,
   ⟨ConnectionSpec, ConnectionSpec.decode, ConnectionSpec.toJson, fun _ => none⟩,
   ⟨Resource, Resource.decode, Resource.toJson, fun r => some r.metadata⟩]

/-- **What was read is read back.** Whatever document a value of a wire type was read from, a
parsed one or a text, the value is read of what is written of it, and so the same is written
again.  Of a composition and a resource this is said if it holds of their metadata, whose
codec is the cluster's own. -/
theorem read_back_as_written (type : WireType) (htype : type ∈ wireTypes) (a : type.Value)
    (hread : type.decode.Gives a)
    (hmeta : ∀ m, type.metadata? a = some m → Cluster.ObjectMeta.decode.value m.toJson = .ok m) :
    ∃ b, type.decode.value (type.toJson a) = .ok b ∧ b = a ∧ type.toJson b = type.toJson a := by
  have hback : type.decode.value (type.toJson a) = .ok a := by
    simp only [wireTypes, List.mem_cons, List.not_mem_nil, or_false] at htype
    rcases htype with rfl | rfl | rfl | rfl | rfl | rfl | rfl | rfl | rfl | rfl | rfl | rfl
    · exact Reference.decode_toJson a
    · exact SecretReference.decode_toJson a
    · exact TypeReference.decode_toJson a
    · exact SecretMetadata.decode_toJson a
    · exact Destination.decode_toJson a
    · exact DetailType.decode_toJson a
    · exact Declaration.decode_toJson a
    · exact Template.decode_toJson a
    · exact CompositionSpec.decode_toJson a
    · exact Composition.decode_toJson a (hmeta _ rfl)
    · exact (ConnectionSpec.apart_of_gives hread).decode_toJson
    · exact (Resource.writable_of_gives hread).decode_toJson (hmeta _ rfl)
  exact ⟨a, hback, rfl, rfl⟩

namespace Sample

/-- A document with fields that nobody knows, with `null` for one that is typed and for one
that is carried. -/
def cacheDocument : Json :=
  .obj [("kind", .str "XCache"), ("extra", .num (.int 7)), ("status", .null),
    ("metadata", .obj [("name", .str "cache"), ("uid", .str "u-1")]),
    ("spec", .obj [("writeConnectionSecretToRef", .null), ("size", .null),
      ("publishConnectionDetailsTo", .arr [.str "conn", .arr [.str "vault"]])]),
    ("apiVersion", .str "example.org/v1")]

/-- What is read of the document. -/
def cache : Resource where
  type := ⟨"example.org/v1", "XCache"⟩
  metadata := { name := some "cache", uid := some "u-1" }
  spec :=
    { destination := some (.inStore "conn" "vault"), fields := Dict.empty.insert "size" .null }

/-- A text with an array for an object, and a type nobody knows. -/
def declarationText : List Char := " [\"user\", \x7b\"Odd\": null\x7d, \"username\"] ".toList

/-- What is read off the text. -/
def declaration : Declaration :=
  { name := some "user", type := some .unknown, secretKey := some "username" }

end Sample

open Sample in
theorem cache_and_declaration_read_back :
    (Resource.decode.value cacheDocument = .ok cache
      ∧ ∃ b, Resource.decode.value cache.toJson = .ok b ∧ b = cache ∧ b.toJson = cache.toJson)
    ∧ Declaration.decode.text 2 declarationText = .ok (declaration, [' '])
      ∧ ∃ d, Declaration.decode.value declaration.toJson = .ok d ∧ d = declaration
          ∧ d.toJson = declaration.toJson := by
  have hcache : Resource.decode.value cacheDocument = .ok cache := rfl
  have hmeta : Cluster.ObjectMeta.decode.value cache.metadata.toJson = .ok cache.metadata := rfl
  have hdeclaration : Declaration.decode.text 2 declarationText = .ok (declaration, [' ']) := rfl
  refine ⟨⟨hcache, ?_⟩, hdeclaration, ?_⟩
  · exact read_back_as_written
      ⟨Resource, Resource.decode, Resource.toJson, fun r => some r.metadata⟩ (by simp [wireTypes])
      cache (.inl ⟨_, hcache⟩) fun m hm => Option.some.inj hm ▸ hmeta
  · exact read_back_as_written
      ⟨Declaration, Declaration.decode, Declaration.toJson, fun _ => none⟩ (by simp [wireTypes])
      declaration (.inr ⟨_, _, _, hdeclaration⟩) fun m hm => absurd hm (Option.some_ne_none m).symm

end ConnectionRelay
