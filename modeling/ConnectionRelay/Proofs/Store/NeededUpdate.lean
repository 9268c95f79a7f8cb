/-
  ConnectionRelay.Proofs.Store.NeededUpdate
  ─────────────────────────────────────────
  **WHEN A WRITE REPLACES A SECRET.**

  A write compares the secret that it has read with that secret after the details are put
  in, and replaces it if the two differ.  They differ if a reader of the secret sees a
  change, and also if the secret only gets a table where it had none, which no reader can
  tell from an empty one.  Main statements:

    • `apply_changes_iff` — what the comparison comes to,
    • `replaces_iff` — when a write that is not cancelled replaces the secret,
    • `replaces_unchanged` — a write that replaces a secret for nothing.
-/
import ConnectionRelay.Proofs.Cluster.Content
import ConnectionRelay.Proofs.Store.WriteCourse

namespace ConnectionRelay

open Cluster

/-! ## §1. What the comparison comes to. -/

/-- Some entry is missing from a table, or has another value there; a table that is absent
has no entries. -/
def Lacking {α : Type} (into entries : Option (Dict α)) : Prop :=
  ∃ k v, (entries.getD .empty).get? k = some v ∧ (into.getD .empty).get? k ≠ some v

theorem not_lacking_iff {α : Type} {into entries : Option (Dict α)} :
    ¬ Lacking into entries ↔ (into.getD .empty).merge (entries.getD .empty) = into.getD .empty := by
  rw [Dict.merge_eq_left_iff]
  constructor
  · exact fun h k v hk => Classical.byContradiction fun hne => h ⟨k, v, hk, hne⟩
  · rintro h ⟨k, v, hk, hne⟩
    exact hne (h k v hk)

/-- A table stays as it is if nothing is put into it, or all that is put in is there. -/
theorem Cluster.Secret.overlay_eq_iff {into above : Option (Dict String)} :
    Secret.overlay into above = into
      ↔ ¬ Lacking into above ∧ ¬ (into = none ∧ above.isSome = true) := by
  rw [not_lacking_iff]
  cases above with
  | none =>
      have hsame : (into.getD .empty).merge .empty = into.getD .empty :=
        Dict.merge_eq_left_iff.2 fun k v hk => by simp at hk
      simp [Secret.overlay, hsame]
  | some entries =>
      cases into with
      | none => simp [Secret.overlay]
      | some table => simp [Secret.overlay]

/-- A reader of a secret sees what a write does to it. -/
inductive Visible (found : Secret) (d : Destination) (details : Details) : Prop where
  | data (h : Lacking found.data (some details))
  | labels (h : Lacking found.metadata.labels (d.metadata.bind (·.labels)))
  | annotations (h : Lacking found.metadata.annotations (d.metadata.bind (·.annotations)))
  | type (t : String) (hgiven : d.metadata.bind (·.type) = some t) (h : found.type ≠ some t)

/-- A write gives a secret a table where it had none. -/
inductive Materialises (found : Secret) (d : Destination) : Prop where
  | data (h : found.data = none)
  | labels (h : found.metadata.labels = none)
      (hgiven : (d.metadata.bind (·.labels)).isSome = true)
  | annotations (h : found.metadata.annotations = none)
      (hgiven : (d.metadata.bind (·.annotations)).isSome = true)

theorem not_visible_iff {found : Secret} {d : Destination} {details : Details} :
    ¬ Visible found d details
      ↔ ¬ Lacking found.data (some details)
        ∧ ¬ Lacking found.metadata.labels (d.metadata.bind (·.labels))
        ∧ ¬ Lacking found.metadata.annotations (d.metadata.bind (·.annotations))
        ∧ ∀ t, d.metadata.bind (·.type) = some t → found.type = some t := by
  constructor
  · intro h
    exact ⟨fun hlacks => h (.data hlacks), fun hlacks => h (.labels hlacks),
      fun hlacks => h (.annotations hlacks),
      fun t ht => Decidable.byContradiction fun hne => h (.type t ht hne)⟩
  · rintro ⟨hdata, hlabels, hannotations, htype⟩ (h | h | h | ⟨t, ht, hne⟩)
    · exact hdata h
    · exact hlabels h
    · exact hannotations h
    · exact hne (htype t ht)

theorem not_materialises_iff {found : Secret} {d : Destination} :
    ¬ Materialises found d
      ↔ found.data ≠ none
        ∧ ¬ (found.metadata.labels = none ∧ (d.metadata.bind (·.labels)).isSome = true)
        ∧ ¬ (found.metadata.annotations = none
            ∧ (d.metadata.bind (·.annotations)).isSome = true) := by
  constructor
  · intro h
    exact ⟨fun hnone => h (.data hnone), fun hnone => h (.labels hnone.1 hnone.2),
      fun hnone => h (.annotations hnone.1 hnone.2)⟩
  · rintro ⟨hdata, hlabels, hannotations⟩ (h | ⟨h, hgiven⟩ | ⟨h, hgiven⟩)
    · exact hdata h
    · exact hlabels ⟨h, hgiven⟩
    · exact hannotations ⟨h, hgiven⟩

namespace Cluster.Secret

theorem data_apply_same_iff {found : Secret} {details : Details} :
    some (found.details.merge details) = found.data
      ↔ ¬ Lacking found.data (some details) ∧ found.data ≠ none := by
  rw [not_lacking_iff]
  unfold Secret.details
  cases found.data with
  | none => exact ⟨nofun, fun h => absurd rfl h.2⟩
  | some data =>
      exact ⟨fun h => ⟨Option.some.inj h, Option.some_ne_none data⟩, fun h => congrArg some h.1⟩

theorem type_apply_same_iff {found : Secret} {d : Destination} :
    (d.metadata.bind (·.type)).or found.type = found.type
      ↔ ∀ t, d.metadata.bind (·.type) = some t → found.type = some t := by
  cases d.metadata.bind (·.type) with
  | none => simp
  | some t => simp [eq_comm]

/-- **What a write compares.**  Putting details in makes a secret another one if a reader
sees a change, or if the secret gets a table where it had none. -/
theorem apply_changes_iff {found : Secret} {d : Destination} {details : Details} :
    (found.apply d details == found) = false ↔ Visible found d details ∨ Materialises found d := by
  have hsame : (found.apply d details == found) = true
      ↔ ¬ (Visible found d details ∨ Materialises found d) := by
    rw [same_iff, Content.apply, content, Content.mk.injEq]
    show some (found.details.merge details) = found.data
        ∧ overlay found.metadata.annotations (d.metadata.bind (·.annotations))
            = found.metadata.annotations
        ∧ overlay found.metadata.labels (d.metadata.bind (·.labels)) = found.metadata.labels
        ∧ (d.metadata.bind (·.type)).or found.type = found.type ↔ _
    rw [data_apply_same_iff, overlay_eq_iff, overlay_eq_iff, type_apply_same_iff, not_or,
      not_visible_iff, not_materialises_iff]
    constructor
    · rintro ⟨⟨hd, hd'⟩, ⟨ha, ha'⟩, ⟨hl, hl'⟩, ht⟩
      exact ⟨⟨hd, hl, ha, ht⟩, hd', hl', ha'⟩
    · rintro ⟨⟨hd, hl, ha, ht⟩, hd', hl', ha'⟩
      exact ⟨⟨hd, hd'⟩, ⟨ha, ha'⟩, ⟨hl, hl'⟩, ht⟩
  rw [← Bool.not_eq_true, hsame, Classical.not_not]

end Cluster.Secret

/-! ## §2. When a write replaces a secret. -/

namespace ClusterStore

variable {store : ClusterStore} {ctx : Context} {ns : String} {d : Destination}
  {details : Details} {own : List (Session × Session)}
  {now : Progress Session (Except Failure Unit)}

/-- What follows a secret replaces it. -/
theorem Follows.replaces {response : Response} {request : Request} {found : Secret}
    (h : Follows ns d details response request)
    (hfound : response.object? Secret.decode = some found) :
    request.method = .put ∧ (found.apply d details == found) = false := by
  cases h with
  | create herror hmissing =>
      rw [Response.object?, if_pos herror] at hfound
      cases hfound
  | replace found' hfound' hchanged =>
      rw [hfound] at hfound'
      cases hfound'
      exact ⟨rfl, hchanged⟩

/-- Of the two requests of a write the read is the first one. -/
theorem Follows.response_eq {response response' : Response} {request : Request} {fate : Fate}
    (h : Follows ns d details response' request) {cluster : String}
    (hread : (⟨cluster, readRequest ns d.name, .answered response⟩ : Served)
      ∈ [⟨cluster, readRequest ns d.name, .answered response'⟩, ⟨cluster, request.arrived, fate⟩]) :
    response = response' := by
  rcases List.mem_cons.1 hread with hfirst | hsecond
  · cases hfirst
    rfl
  · have hrequest := congrArg (·.request.method) (List.mem_singleton.1 hsecond)
    exact absurd hrequest.symm h.method_ne_get

/-- A write that has sent its two requests replaces the secret, and has to. -/
theorem Follows.put_iff {response response' : Response} {request : Request} {fate : Fate}
    {cluster : String} {requests : List Served} {found : Secret}
    (h : Follows ns d details response' request)
    (hrequests : requests = [⟨cluster, readRequest ns d.name, .answered response'⟩,
      ⟨cluster, request.arrived, fate⟩])
    (hread : ⟨cluster, readRequest ns d.name, .answered response⟩ ∈ requests)
    (hfound : response.object? Secret.decode = some found) :
    (∃ served ∈ requests, served.request.method = .put)
      ↔ (found.apply d details == found) = false := by
  subst hrequests
  obtain rfl := h.response_eq hread
  obtain ⟨hput, hchanged⟩ := h.replaces hfound
  exact ⟨fun _ => hchanged, fun _ => ⟨_, List.mem_cons_of_mem _ List.mem_cons_self, hput⟩⟩

/-- If a request was refused after a secret was read, it was the second one. -/
theorem Course.put_iff_of_refused {cluster : String} {requests : List Served}
    (h : Course cluster ns d details requests) {response : Response} {found : Secret}
    (hread : ⟨cluster, readRequest ns d.name, .answered response⟩ ∈ requests)
    (hfound : response.object? Secret.decode = some found)
    (hfailed : ∃ served ∈ requests, ¬ served.Granted) :
    (∃ served ∈ requests, served.request.method = .put)
      ↔ (found.apply d details == found) = false := by
  cases h with
  | unsent => cases hread
  | read fate =>
      -- the read is the only request, and it was granted
      obtain ⟨served, hserved, hrefused⟩ := hfailed
      rw [← List.mem_singleton.1 hread] at hserved
      rw [List.mem_singleton.1 hserved] at hrefused
      exact absurd ⟨response, rfl, Client.readAnswer_of_object hfound⟩ hrefused
  | written response' request fate hfollows => exact hfollows.put_iff rfl hread hfound

/-- A write that has read a secret replaces it if putting the details in changes it, unless
the write is cancelled or suspended before that. -/
theorem Stage.replaces_iff_changes (h : Stage store ctx ns d details own now)
    (hactive : Uncancelled ctx own) (hstarted : ∀ left resume, now ≠ .paused left resume)
    {response : Response} {found : Secret}
    (hread : ⟨store.cluster, readRequest ns d.name, .answered response⟩ ∈ Session.servedOver own)
    (hfound : response.object? Secret.decode = some found) :
    (∃ served ∈ Session.servedOver own, served.request.method = .put)
      ↔ (found.apply d details == found) = false := by
  cases h with
  | reading start left hown hserved hactive =>
      rw [hserved] at hread
      cases hread
  | writing left response request f before hown hfollows hactive => exact absurd rfl (hstarted _ _)
  | unanswered left hown hfailed => exact hown.put_iff_of_refused hread hfound hfailed
  | failed f left hown hfailed => exact hown.put_iff_of_refused hread hfound hfailed
  | cancelled left hown hcancelled => exact absurd hactive hcancelled
  | same left response' found' hown hfound' hsame hactive =>
      rw [hown] at hread ⊢
      cases List.mem_singleton.1 hread
      rw [hfound] at hfound'
      cases hfound'
      rw [hsame]
      refine ⟨?_, nofun⟩
      rintro ⟨served, hserved, hput⟩
      rw [List.mem_singleton.1 hserved] at hput
      cases hput
  | stored left response' answer request hown hfollows hstored hactive =>
      exact hfollows.put_iff hown hread hfound

/-- **When a write replaces a secret.**  A write that has read a secret, and is neither
cancelled nor suspended before its next request, replaces the secret exactly if that
changes something that a reader of the secret sees, or gives the secret a table where it
had none: the one of its data, or one of labels or annotations that the destination has. -/
theorem replaces_iff {owner : Owner} (hdestination : owner.destination = some d)
    (hns : isName (store.namespaceOf owner) = true) (hname : isName d.name = true) {s : Session}
    {changes : List (Session × Session)}
    (hreaches : (store.toStore.write ctx owner details s).Reaches changes now)
    (hactive : Uncancelled ctx (Progress.turns s changes now.state))
    (hstarted : ∀ left resume, now ≠ .paused left resume)
    {response : Response} {found : Secret}
    (hread : ⟨store.cluster, readRequest (store.namespaceOf owner) d.name, .answered response⟩
      ∈ Session.servedOver (Progress.turns s changes now.state))
    (hfound : response.object? Secret.decode = some found) :
    (∃ served ∈ Session.servedOver (Progress.turns s changes now.state),
        served.request.method = .put)
      ↔ Visible found d details ∨ Materialises found d := by
  have hstage := stage_of_reaches hdestination hns hname hreaches
  rw [hstage.replaces_iff_changes hactive hstarted hread hfound, Secret.apply_changes_iff]

open ClusterStore.Sample in
/-- The write of a password replaces the secret that it has read, and has to. -/
theorem replaces_of_writing :
    ∃ (response : Response) (found : Secret), response.object? Secret.decode = some found
      ∧ (∃ served ∈ Session.servedOver turns, served.request.method = .put)
      ∧ (Visible found labelled password ∨ Materialises found labelled) := by
  obtain ⟨stop, hdone⟩ := writing_done
  have hactive := ((stage_writing.ok_iff hdone).1 rfl).1
  have hstarted : ∀ left resume, writing.resumed.resumed ≠ .paused left resume := by
    rw [hdone]
    exact nofun
  have hcourse : Course "east" "team-a" labelled password (Session.servedOver turns) :=
    stage_writing.course
  have hmethods := methods_writing
  generalize hrequests : Session.servedOver turns = requests at hcourse hmethods
  cases hcourse with
  | unsent => cases hmethods
  | read fate => cases hmethods
  | written response request fate hfollows =>
      cases hfollows with
      | create herror hmissing => cases hmethods
      | replace found hfound hchanged =>
          have hread : ⟨"east", readRequest "team-a" "conn", .answered response⟩
              ∈ Session.servedOver turns := by
            rw [hrequests]
            exact List.mem_cons_self
          have hput : ∃ served ∈ Session.servedOver turns, served.request.method = .put := by
            rw [hrequests]
            exact ⟨_, List.mem_cons_of_mem _ List.mem_cons_self, rfl⟩
          have hreplaces := @replaces_iff east ⟨[0]⟩ labelled password writing.resumed.resumed
            database rfl (by decide) (by decide) keptSession pauses reaches_writing hactive hstarted
            response found hread hfound
          refine ⟨response, found, hfound, ?_, hreplaces.1 hput⟩
          rw [← hrequests]
          exact hput

namespace Sample

/-- A secret without data. -/
def bare : Json :=
  .record
    [("apiVersion", some (.str "v1")), ("kind", some (.str "Secret")),
     ("metadata", some (.record
       [("name", some (.str "conn")), ("namespace", some (.str "team-a")),
        ("resourceVersion", some (.str "7"))]))]

/-- What is read of it. -/
def bareSecret : Secret :=
  { metadata := { name := some "conn", ns := some "team-a", resourceVersion := some "7" } }

/-- A session in which the secret without data is in the cluster. -/
def bareSession : Session :=
  { servers := Dict.ofList
      [("east", { objects := Dict.ofList [("/api/v1/namespaces/team-a/secrets/conn", bare)] })] }

/-- A write of nothing at all. -/
def touching : Progress Session (Except Failure Unit) :=
  east.toStore.write ⟨[0]⟩ ⟨"database", some "team-a", some { name := "conn" }⟩ .empty bareSession

/-- The states that this write leaves, in which it is resumed. -/
def touchingPauses : List (Session × Session) :=
  [(touching.state, touching.state), (touching.resumed.state, touching.resumed.state)]

end Sample

open ClusterStore.Sample in
/-- A write of nothing replaces a secret without data, in which no reader sees a change. -/
theorem replaces_unchanged :
    touching.Reaches touchingPauses touching.resumed.resumed
      ∧ Secret.decode.value bare = .ok bareSecret
      ∧ ((Session.servedOver (Progress.turns bareSession touchingPauses
            touching.resumed.resumed.state)).map (·.request.method) = [.get, .put])
      ∧ ¬ Visible bareSecret { name := "conn" } .empty := by
  refine ⟨.turn (Progress.resume?_state (by decide +kernel))
    (.turn (Progress.resume?_state (by decide +kernel)) (.here _)), rfl, by decide +kernel, ?_⟩
  rw [not_visible_iff]
  refine ⟨?_, ?_, ?_, nofun⟩
  · rintro ⟨k, v, hk, -⟩
    cases hk
  · rintro ⟨k, v, hk, -⟩
    cases hk
  · rintro ⟨k, v, hk, -⟩
    cases hk

end ClusterStore

end ConnectionRelay
