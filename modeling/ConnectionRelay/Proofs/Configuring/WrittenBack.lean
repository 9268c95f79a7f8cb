/-
  ConnectionRelay.Proofs.Configuring.WrittenBack
  ──────────────────────────────────────────────
  **A COMPOSITE IS WRITTEN BACK WITH A DESTINATION.**

  A composite without a destination is turned into an object, sent to its place, and made of
  the answer again.  On the way there nothing but the destination is added.  On the way back
  the answer is read as text, and a binary64 number that the composite carries may be read as
  its neighbour.  These numbers apart, a server that answers what it was sent leaves the
  composite as it was, with its destination and the new resource version.  Main statements:

    • `Updater.request?_of_placeable` — the request for a composite,
    • `Resource.toJson_withDestination` — its body is the written composite with a destination,
    • `Resource.object?_echo`, `Resource.ofDynamic_echo` — what is made of the answer,
    • `written_back` — a call under an active context,
    • `ratio_comes_back_changed` — a composite whose number does not come back.
-/
import ConnectionRelay.Proofs.Cluster.KeptResource
import ConnectionRelay.Proofs.Cluster.ObjectTarget
import ConnectionRelay.Proofs.Configuring.ClusterUpdate

namespace ConnectionRelay

open Cluster

/-! ## §1. The request. -/

/-- A destination is set in the written spec. -/
theorem ConnectionSpec.Apart.toJson_withDestination {s : ConnectionSpec} (h : s.Apart)
    (d : Destination) :
    { s with destination := some d }.toJson
      = s.toJson.setField "publishConnectionDetailsTo" d.toJson := by
  have hnone : s.fields.get? "publishConnectionDetailsTo" = none :=
    h _ (field?_ne_none_iff.2 (.inl rfl))
  show Json.ofDict _ = Json.ofDict (s.toDict.insert "publishConnectionDetailsTo" d.toJson)
  refine congrArg Json.ofDict (Dict.ext fun k => ?_)
  rw [Dict.get?_insert, get?_toDict, get?_toDict]
  by_cases hk : k = "publishConnectionDetailsTo"
  · rw [if_pos hk, if_pos hk, hk, hnone]
    rfl
  · rw [if_neg hk, if_neg hk, if_neg hk]

namespace Resource

variable {r : Resource} {name : String}

/-- **A destination is added to the written resource**, and nothing else is changed. -/
theorem toJson_withDestination (h : r.Writable) (d : Destination) :
    (r.withDestination (some d)).toJson
      = r.toJson.setField "spec"
          ((r.toJson.field "spec").setField "publishConnectionDetailsTo" d.toJson) := by
  have hspec : r.toJson.field "spec" = r.spec.toJson :=
    @Json.field_record r.written "spec" (some r.spec.toJson) r.inOrder_written.nodup
      (by simp [written])
  -- the spec has its slot between the metadata and the status
  have horder : Json.InOrder ([("apiVersion", some (.str r.type.apiVersion)),
        ("kind", some (.str r.type.kind)), ("metadata", some r.metadata.toJson)]
      ++ ("spec", some r.spec.toJson) :: [("status", r.status)]) := r.inOrder_written
  rw [hspec, ← h.spec.toJson_withDestination d]
  exact (Json.put_record horder _).symm

/-- A resource of a type, and with names, that a cluster accepts. -/
structure Placeable (r : Resource) (name : String) : Prop where
  named : r.metadata.name = some name
  place : IsPlace r.type r.metadata.ns name

/-- The request that replaces a resource. -/
def replacement (r : Resource) (name : String) : Request :=
  replaceRequest r.type r.metadata.ns name r.toJson

end Resource

/-- **The request for a composite** replaces it at its place. -/
theorem Updater.request?_of_placeable {r : Resource} {name : String} (h : r.Placeable name)
    (hsound : r.metadata.Sound) : request? r = some (r.replacement name) := by
  rw [request?, h.named, Resource.toDynamic_eq hsound]
  simp only [Resource.toJson_asDynamic]
  exact Client.replaceRequest?_placeOf h.place _

/-! ## §2. The answer. -/

namespace Resource

/-- What a server holds of a resource that it was sent: the text as it came, or the values
that reading the text gives. -/
inductive Echoes (sent : Resource) : Resource → Prop where
  | text : Echoes sent sent
  | values : Echoes sent sent.kept

/-- The answer of a server that holds a resource under a resource version. -/
def echo (held : Resource) (status : Nat) (version : String) : Response :=
  ⟨status, .json (ApiServer.withVersion held.toJson version)⟩

variable {r sent held : Resource} {status : Nat} {version : String}

theorem Echoes.sound (h : Echoes sent held) (hsound : sent.metadata.Sound) :
    held.metadata.Sound := by
  cases h with
  | text => exact hsound
  | values => exact hsound.kept

theorem Echoes.writable (h : Echoes sent held) (hwritable : sent.Writable) : held.Writable := by
  cases h with
  | text => exact hwritable
  | values => exact hwritable.kept

theorem Echoes.kept_of_kept (h : Echoes sent held) (hkept : sent.kept = sent) : held = sent := by
  cases h with
  | text => rfl
  | values => exact hkept

theorem sound_withVersion (h : r.metadata.Sound) (version : String) :
    (r.withVersion version).metadata.Sound :=
  ⟨h.created, h.deleted, h.grace, h.generation, h.managed⟩

/-- The object of an answer. -/
theorem object?_echo (h : held.metadata.Sound) (hstatus : status < 400) :
    (held.echo status version).object? DynamicObject.decode
      = some (held.withVersion version).kept.asDynamic := by
  refine Response.object?_of_read ?_ hstatus
  rw [withVersion_toJson, sent_toJson]
  exact toDynamic_eq (sound_withVersion h version).kept

/-- The resource of that object. -/
theorem ofDynamic_echo (hwritable : held.Writable) (h : held.metadata.Sound) :
    ofDynamic (held.withVersion version).kept.asDynamic
      = .ok (held.withVersion version).kept := by
  have hversioned : (held.withVersion version).Writable := ⟨hwritable.spec, hwritable.status⟩
  rw [ofDynamic_asDynamic hversioned.kept (sound_withVersion h version).kept]
  refine congrArg Except.ok ?_
  -- the times of what was kept are in whole seconds already
  show ({ (held.withVersion version).kept with
    metadata := (held.withVersion version).metadata.kept.whole } : Resource) = _
  rw [ObjectMeta.whole_kept]
  rfl

/-- A resource with another version is kept as it is if it was before. -/
theorem kept_withVersion_iff (version : String) :
    (r.withVersion version).kept = r.withVersion version ↔ r.kept = r := by
  have hcomm : (r.withVersion version).kept = r.kept.withVersion version := rfl
  rw [hcomm]
  refine ⟨fun h => ?_, fun h => by rw [h]⟩
  exact congrArg (fun x : Resource =>
    { x with metadata := { x.metadata with resourceVersion := r.metadata.resourceVersion } }) h

end Resource

/-! ## §3. The call. -/

namespace Configurator

variable {r : Resource} {store name : String}

theorem placeable_given (h : r.Placeable name) (store : String) :
    (given r store).Placeable name :=
  ⟨h.named, h.place⟩

theorem writable_given (h : r.Writable) (store : String) : (given r store).Writable :=
  ⟨h.spec, h.status⟩

/-- A composite that was given a destination is kept as it is if it was before. -/
theorem kept_given_iff : (given r store).kept = given r store ↔ r.kept = r := by
  have hcomm : (given r store).kept = given r.kept store := rfl
  rw [hcomm]
  refine ⟨fun h => ?_, fun h => by rw [h]⟩
  exact congrArg (fun x : Resource => x.withDestination r.destination) h

/-- The numbers of a composite decide whether it comes back with its destination and the new
version, and nothing else changed. -/
theorem comes_back_iff (hmetadata : r.metadata.kept = r.metadata) (version : String) :
    ((given r store).withVersion version).kept = (given r store).withVersion version
      ↔ ∀ n ∈ r.numbers, Json.sentNumber n = n := by
  rw [Resource.kept_withVersion_iff, kept_given_iff, Resource.kept_eq_iff hmetadata]

/-- A call that meets a server which answers what it was sent makes the composite of that. -/
theorem ends_of_echo {cluster version : String} {status : Nat} {ctx : Context}
    {composition : CompositionSpec} {held : Resource} {s met : Session}
    (hread : Resource.decode.Gives r) (hnone : r.destination = none) (hplace : r.Placeable name)
    (hstore : composition.defaultStore = some store)
    (htype : composition.appliesTo r.type = true) (hactive : ctx.isCancelled s = false)
    (hmet : ctx.isCancelled met = false) (hecho : Resource.Echoes (given r store) held)
    (hstatus : status < 400)
    (hanswered : ((met.serverOf cluster).handle ((given r store).replacement name).arrived).1
      = .answered (held.echo status version)) :
    ∃ left s', left.2 = given r store
      ∧ (configure (.ofCluster cluster) ctx composition (s, r)).Ends [(left, (met, left.2))]
          (.ok ()) (s', (held.withVersion version).kept)
      ∧ s.sentSince left.1 = []
      ∧ met.sentSince s' = [(cluster, ((given r store).replacement name).arrived)] := by
  have hwritable : (given r store).Writable :=
    writable_given (Resource.writable_of_gives hread) store
  have hsound : r.metadata.Sound := Resource.sound_of_gives hread
  have hheld : held.metadata.Sound := hecho.sound hsound
  have hrequest : Updater.request? (given r store) = some ((given r store).replacement name) :=
    Updater.request?_of_placeable (placeable_given hplace store) hsound
  exact ends_of_answered hstore htype hnone hactive hmet hrequest hanswered
    (Resource.object?_echo hheld hstatus) (Resource.ofDynamic_echo (hecho.writable hwritable) hheld)

end Configurator

open Configurator in
/-- **A composite is written back with a destination.**  Take a composite that was read, has
no destination, and is of a type and has names that a cluster accepts, and a composition of
its type with a default store.  If the server answers the composite as it was sent, under
some resource version, and the context is not cancelled, then the call returns no error.  It
sends one request, which replaces the composite at its place by the written composite with
the default destination added.  The composite is then what reading the answer gives.  Where
the metadata is read back as it was written, this is the composite with the destination and
the resource version and with nothing else changed if every number that it carries is read
back as it was written; if one is not, and the server answers the very text that it was sent,
the composite has changed in other places. -/
theorem written_back {cluster store name version : String} {status : Nat} {ctx : Context}
    {composition : CompositionSpec} {r held : Resource} {s met : Session}
    (hread : Resource.decode.Gives r) (hnone : r.destination = none) (hplace : r.Placeable name)
    (hstore : composition.defaultStore = some store)
    (htype : composition.appliesTo r.type = true) (hactive : ctx.isCancelled s = false)
    (hmet : ctx.isCancelled met = false) (hecho : Resource.Echoes (given r store) held)
    (hstatus : status < 400)
    (hanswered : ((met.serverOf cluster).handle ((given r store).replacement name).arrived).1
      = .answered (held.echo status version)) :
    ∃ left after, left.2 = given r store
      ∧ (configure (.ofCluster cluster) ctx composition (s, r)).Ends [(left, (met, left.2))]
          (.ok ()) after
      ∧ s.sentSince left.1 = []
      ∧ met.sentSince after.1 = [(cluster, ((given r store).replacement name).arrived)]
      ∧ (given r store).toJson = r.toJson.setField "spec" ((r.toJson.field "spec").setField
          "publishConnectionDetailsTo" (Destination.inStore r.uid store).toJson)
      ∧ after.2 = (held.withVersion version).kept
      ∧ (r.metadata.kept = r.metadata →
          ((∀ n ∈ r.numbers, Json.sentNumber n = n) →
              after.2 = (given r store).withVersion version)
            ∧ (held = given r store → after.2 = (given r store).withVersion version →
              ∀ n ∈ r.numbers, Json.sentNumber n = n)) := by
  obtain ⟨left, s', hleft, hends, hbefore, hsent⟩ :=
    ends_of_echo hread hnone hplace hstore htype hactive hmet hecho hstatus hanswered
  refine ⟨left, _, hleft, hends, hbefore, hsent,
    Resource.toJson_withDestination (Resource.writable_of_gives hread) _, rfl,
    fun hmetadata => ⟨fun hnumbers => ?_, ?_⟩⟩
  · -- a server that has read the text holds the same composite then
    have hkept : (given r store).kept = given r store :=
      kept_given_iff.2 ((Resource.kept_eq_iff hmetadata).2 hnumbers)
    rw [hecho.kept_of_kept hkept]
    exact (comes_back_iff hmetadata version).2 hnumbers
  · rintro rfl hsame
    exact (comes_back_iff hmetadata version).1 hsame

namespace Sample

/-- The database with a size and a status, in a namespace. -/
def sized : Resource :=
  { type := composite.type
    metadata :=
      { name := some "db", ns := some "team-a", uid := some "u-1", resourceVersion := some "7" }
    spec := { fields := .ofList [("size", .num (.int 20))] }
    status := some (.record [("ready", some (.bool true))]) }

theorem placeable_sized : sized.Placeable "db" := by
  have hversion : IsApiVersion "example.org/v1" := .grouped "example.org" "v1" rfl rfl
  have hnamespace : ∀ n, sized.metadata.ns = some n → isName n = true := by
    rintro n ⟨⟩
    decide
  exact ⟨rfl, hversion, by decide, hnamespace, by decide⟩

/-- The database with a ratio, `8.927991387230315e-14`. -/
def rated : Resource :=
  { sized with spec := { fields := .ofList [("ratio", .num (.real 4411593919093879445))] } }

/-- A session with a server that answers one request with a resource that it holds. -/
def echoing (held : Resource) (version : String) : Session :=
  { servers := .ofList [("east", { script := [some { answer := some (held.echo 200 version) }] })] }

end Sample

open Sample Configurator in
/-- The database is written back with its destination and the new version. -/
theorem sized_written_back :
    ∃ left after, (configure (.ofCluster "east") ⟨[0]⟩ composition ({}, sized)).Ends
        [(left, (echoing (given sized "default") "8", left.2))] (.ok ()) after
      ∧ after.2 = (given sized "default").withVersion "8" := by
  have hread : Resource.decode.Gives sized := .inl ⟨sized.toJson, rfl⟩
  obtain ⟨left, after, -, hends, -, -, -, -, hback⟩ :=
    @written_back "east" "default" "db" "8" 200 ⟨[0]⟩ composition sized (given sized "default") {}
      (echoing (given sized "default") "8") hread rfl placeable_sized rfl (by decide) rfl rfl .text
      (by decide) rfl
  exact ⟨left, after, hends, (hback rfl).1 (by decide)⟩

open Sample Configurator in
/-- The ratio comes back as its neighbour, although the server answers the very text that it
was sent. -/
theorem ratio_comes_back_changed :
    ∃ left after, (configure (.ofCluster "east") ⟨[0]⟩ composition ({}, rated)).Ends
        [(left, (echoing (given rated "default") "8", left.2))] (.ok ()) after
      ∧ after.2.spec.fields.get? "ratio" = some (.num (.real 4411593919093879446))
      ∧ after.2 ≠ (given rated "default").withVersion "8" := by
  have hread : Resource.decode.Gives rated := .inl ⟨rated.toJson, rfl⟩
  have hplace : rated.Placeable "db" := ⟨placeable_sized.named, placeable_sized.place⟩
  have hneighbour : Json.sentNumber (.real 4411593919093879445) = .real 4411593919093879446 := by
    decide +kernel
  obtain ⟨left, s', -, hends, -⟩ :=
    @ends_of_echo rated "default" "db" "east" "8" 200 ⟨[0]⟩ composition (given rated "default") {}
      (echoing (given rated "default") "8") hread rfl hplace rfl (by decide) rfl rfl .text
      (by decide) rfl
  refine ⟨left, _, hends, ?_, fun hsame => ?_⟩
  · show some (Json.num (Json.sentNumber (.real 4411593919093879445))) = _
    rw [hneighbour]
  · have hnumber := (comes_back_iff rfl "8").1 hsame (.real 4411593919093879445)
      List.mem_cons_self
    rw [hneighbour] at hnumber
    cases hnumber

end ConnectionRelay
