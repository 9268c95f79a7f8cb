/-
  ConnectionRelay.Proofs.Store.QuietCluster
  ─────────────────────────────────────────
  **READS AND WRITES OF A QUIET CLUSTER.**

  When nothing else runs and the server only serves, a read and a write for an owner with
  valid names come to an end.  What they make of the object at the owner's place depends on
  the secret that a reader finds in it (`Shows`), whoever has stored the object.  Main
  statements:

    • `read_shown` — a read answers the details of the secret,
    • `write_shown` — a write succeeds and leaves the secret with its details put in
      (`Leaves`); if the secret has them already, the write only reads it.
-/
import ConnectionRelay.Proofs.Cluster.KeptSecret
import ConnectionRelay.Proofs.Cluster.PlainServer
import ConnectionRelay.Proofs.Store.ClusterWrite

namespace ConnectionRelay

open Cluster

/-! ## §1. Sessions in which one place changes. -/

/-- The server of a cluster has served requests for one place, and cancelled nothing. -/
structure Session.Serves (s s' : Session) (cluster place : String) : Prop where
  fired : s'.fired = s.fired
  script : (s'.serverOf cluster).script = (s.serverOf cluster).script
  elsewhere : ∀ q, q ≠ place →
    (s'.serverOf cluster).objects.get? q = (s.serverOf cluster).objects.get? q

variable {s s' s'' : Session} {cluster place : String}

theorem Session.Serves.trans (h : s.Serves s' cluster place) (h' : s'.Serves s'' cluster place) :
    s.Serves s'' cluster place where
  fired := h'.fired.trans h.fired
  script := h'.script.trans h.script
  elsewhere q hq := (h'.elsewhere q hq).trans (h.elsewhere q hq)

theorem Session.Serves.isCancelled_eq (h : s.Serves s' cluster place) (ctx : Context) :
    ctx.isCancelled s' = ctx.isCancelled s :=
  Context.isCancelled_congr h.fired ctx

/-- A read leaves the objects alone. -/
theorem serves_of_take (hserver : s'.serverOf cluster = (s.serverOf cluster).take)
    (hfired : s'.fired = s.fired) : s.Serves s' cluster place := by
  refine ⟨hfired, ?_, fun q _ => ?_⟩
  · rw [hserver]
    rfl
  · rw [hserver]
    rfl

/-- A write changes one object. -/
theorem serves_of_store {body : Json} {status : Nat}
    (hserver : s'.serverOf cluster = ((s.serverOf cluster).take.store place body status).2)
    (hfired : s'.fired = s.fired) : s.Serves s' cluster place := by
  refine ⟨hfired, ?_, fun q hq => ?_⟩
  · rw [hserver]
    rfl
  · rw [hserver]
    show ((s.serverOf cluster).objects.insert place _).get? q = _
    rw [Dict.get?_insert, if_neg hq]

/-! ## §2. What a reader finds. -/

/-- What a reader finds at a place: no object, or one that is read as a secret. -/
inductive Shows : Option Json → Option Secret → Prop where
  | absent : Shows none none
  | present {object : Json} {found : Secret} (hkeyed : IsKeyed object)
      (hread : Secret.decode.value object.sent = .ok found) : Shows (some object) (some found)

theorem isNotFound_refusal : (ApiServer.refusal 404 "NotFound").isNotFound = true := by
  decide +kernel

theorem readAnswer_refusal : Client.readAnswer Secret.decode (ApiServer.refusal 404 "NotFound")
    = some none := by
  have herror : (ApiServer.refusal 404 "NotFound").isError = true := rfl
  unfold Client.readAnswer
  rw [if_pos herror, if_pos isNotFound_refusal]

/-- The server answers a read with what is there to be found. -/
theorem Shows.answered {server : ApiServer} {first : Option Secret} (hscript : server.script = [])
    (h : Shows (server.objects.get? place) first) :
    ∃ r, server.handle ⟨.get, ⟨place, none⟩, none⟩ = (.answered r, server.take)
      ∧ Client.readAnswer Secret.decode r = some first := by
  generalize hobject : server.objects.get? place = object at h
  -- the server refuses to show what is not there, and this refusal is understood
  cases h with
  | absent => exact ⟨_, ApiServer.handle_absent hscript hobject none none, readAnswer_refusal⟩
  | @present object found hkeyed hread =>
      refine ⟨_, ApiServer.handle_present hscript hobject none none, ?_⟩
      have herror : (Response.mk 200 (.json object)).isError = false := rfl
      rw [Client.readAnswer, herror, if_neg Bool.false_ne_true,
        Response.object?_of_read hread (by omega)]
      rfl

/-! ## §3. One request. -/

namespace ClusterStore

variable {α β γ : Type} {ctx : Context} {request : Request}

/-- A request that the server answers is one step of the operation. -/
theorem finish_driven (hactive : ctx.isCancelled s = false)
    (hscript : (s.serverOf cluster).script = []) {r : Response} {server : ApiServer}
    (hhandle : (s.serverOf cluster).handle request.arrived = (.answered r, server))
    (f : Failure) (decoder : Wire.Decoder β) {look : Response → Option γ} {b : γ}
    (hlook : look r = some b) (next : γ → Session → Progress Session (Except Failure α)) :
    ∃ s', s'.serverOf cluster = server ∧ s'.fired = s.fired
      ∧ (∀ lines, s.sentSince (s'.log lines) = [(cluster, request.arrived)])
      ∧ (Progress.paused (s.log [Queue.entered])
          (driven ctx cluster request f decoder look next)).finish = (next b s').finish := by
  have hlogged : ((s.log [Queue.entered]).serverOf cluster).script = [] := hscript
  obtain ⟨s', hexchange, hserver, hfired⟩ := Session.exchange_of_handle hlogged hhandle
  refine ⟨s'.log (r.remarks decoder), hserver, hfired, fun lines => ?_, ?_⟩
  · have hsent := s.sentSince_exchange [Queue.entered] (r.remarks decoder ++ lines) cluster request
    rw [hexchange] at hsent
    rw [Session.log_log]
    exact hsent
  · have hnow : ctx.isCancelled (s.log [Queue.entered]) = false := hactive
    show (driven ctx cluster request f decoder look next (s.log [Queue.entered])).finish = _
    unfold driven
    rw [hnow, if_neg Bool.false_ne_true, hexchange]
    unfold settle
    simp only [hlook, Option.elim_some]
    rfl

variable {store : ClusterStore} {owner : Owner} {d : Destination} {ns name : String}
  {first : Option Secret}

/-- The secret at a place is found. -/
theorem finish_find (hns : isName ns = true) (hname : isName name = true)
    (hactive : ctx.isCancelled s = false) (hscript : (s.serverOf store.cluster).script = [])
    (hshows : Shows ((s.serverOf store.cluster).objects.get? (Secret.place ns name)) first)
    (next : Option Secret → Session → Progress Session (Except Failure α)) :
    ∃ s', s'.serverOf store.cluster = (s.serverOf store.cluster).take ∧ s'.fired = s.fired
      ∧ (∀ lines, s.sentSince (s'.log lines) = [(store.cluster, readRequest ns name)])
      ∧ ((store.find ctx ns name s).bind (passOn next)).finish = (next first s').finish := by
  unfold find Client.read
  rw [Client.readRequest?_place hns hname, attempt_ask_bind hactive]
  obtain ⟨r, hhandle, hlook⟩ := hshows.answered hscript
  have hhandle : (s.serverOf store.cluster).handle (readRequest ns name).arrived = _ := hhandle
  exact finish_driven hactive hscript hhandle _ _ hlook next

/-- What the server answers to a secret is read as that secret, under another version. -/
theorem decode_withVersion {secret : Secret} (hsound : secret.metadata.Sound) (version : String) :
    Secret.decode.value (ApiServer.withVersion secret.toJson.sent version).sent
      = .ok (secret.withVersion version).kept.kept := by
  rw [Secret.withVersion_toJson, Secret.sent_toJson,
    Secret.decode_sent (Secret.sound_withVersion hsound version).kept]

/-- A write that the server stores ends well. -/
theorem finish_stored {secret : Secret} (hsound : secret.metadata.Sound) {status : Nat}
    (hstatus : status < 400) (hactive : ctx.isCancelled s = false)
    (hscript : (s.serverOf cluster).script = [])
    (hhandle : (s.serverOf cluster).handle request.arrived
      = (.answered ((s.serverOf cluster).take.store place secret.toJson.sent status).1,
          ((s.serverOf cluster).take.store place secret.toJson.sent status).2))
    (f : Failure) (ns before name : String) :
    ∃ s', (Progress.paused (s.log [Queue.entered])
          (driven ctx cluster request f Secret.decode (·.object? Secret.decode)
            (ended ns before name))).finish = some (.ok (), s')
      ∧ s.Serves s' cluster place
      ∧ (s'.serverOf cluster).objects.get? place
          = some (secret.withVersion
              ((s.serverOf cluster).versionText (s.serverOf cluster).nextVersion)).toJson.sent := by
  have hlook : Response.object? Secret.decode
      ((s.serverOf cluster).take.store place secret.toJson.sent status).1 = _ :=
    Response.object?_of_read (decode_withVersion hsound _) hstatus
  obtain ⟨s', hserver, hfired, -, hfinish⟩ :=
    finish_driven hactive hscript hhandle f Secret.decode hlook (ended ns before name)
  have hend : (s'.log [writtenLine ns .info before name ""]).serverOf cluster = _ := hserver
  refine ⟨s'.log [writtenLine ns .info before name ""], hfinish, serves_of_store hend hfired, ?_⟩
  rw [Session.serverOf_log, hserver, ← Secret.withVersion_toJson]
  show ((s.serverOf cluster).objects.insert place _).get? place = _
  rw [Dict.get?_insert, if_pos rfl]
  rfl

/-! ## §4. Reads. -/

/-- **A read answers the details of the secret.** -/
theorem read_shown (hdestination : owner.destination = some d)
    (hns : isName (store.namespaceOf owner) = true) (hname : isName d.name = true)
    (hactive : ctx.isCancelled s = false) (hscript : (s.serverOf store.cluster).script = [])
    (hshows : Shows ((s.serverOf store.cluster).objects.get?
      (Secret.place (store.namespaceOf owner) d.name)) first) :
    ∃ s', s'.serverOf store.cluster = (s.serverOf store.cluster).take ∧ s'.fired = s.fired
      ∧ (store.toStore.read ctx owner s).finish = some (.ok (first.map Secret.details), s') := by
  rw [read_eq hdestination]
  obtain ⟨s', hserver, hfired, -, hfinish⟩ :=
    finish_find hns hname hactive hscript hshows
      fun found s => .done (.ok (found.map Secret.details)) s
  exact ⟨s', hserver, hfired, hfinish⟩

/-! ## §5. Writes. -/

/-- The secret that a write sends, if it sends one. -/
def toSend (ns : String) (d : Destination) (details : Details) (first : Option Secret) : Secret :=
  (first.getD (Secret.ofName d.name ns)).apply d details

/-- What a write leaves at its place: what was there, if the details do not change it, and
otherwise the secret with the details put in, under a version that the server gives it. -/
inductive Leaves (ns : String) (d : Destination) (details : Details) (before : Option Json) :
    Option Secret → Option Json → Prop where
  | same (found : Secret) (hsame : (found.apply d details == found) = true) :
      Leaves ns d details before (some found) before
  | stored (first : Option Secret) (version : String) :
      Leaves ns d details before first
        (some ((toSend ns d details first).withVersion version).toJson.sent)

variable {details : Details}

/-- Writing back succeeds. -/
theorem writeBack_shown (hns : isName ns = true) (hname : isName d.name = true)
    (hactive : ctx.isCancelled s = false) (hscript : (s.serverOf store.cluster).script = [])
    (details : Details)
    (hshows : Shows ((s.serverOf store.cluster).objects.get? (Secret.place ns d.name)) first) :
    ∃ s', (store.writeBack ctx ns d details first s).finish = some (.ok (), s')
      ∧ s.Serves s' store.cluster (Secret.place ns d.name)
      ∧ Leaves ns d details
          ((s.serverOf store.cluster).objects.get? (Secret.place ns d.name)) first
          ((s'.serverOf store.cluster).objects.get? (Secret.place ns d.name)) := by
  generalize hobject :
    (s.serverOf store.cluster).objects.get? (Secret.place ns d.name) = before at hshows ⊢
  -- nothing is there and it is created, or it stays as it is, or it is replaced
  cases hshows with
  | absent =>
      have hsent := ((Secret.ofName d.name ns).apply d details).name_toJson
      have hhandle : (s.serverOf store.cluster).handle
          (createRequest ns ((Secret.ofName d.name ns).apply d details)).arrived = _ :=
        ApiServer.handle_create hscript rfl hobject hsent (some Client.managerQuery)
      have hsound := Secret.sound_apply (Secret.sound_ofName d.name ns) d details
      obtain ⟨s', hfinish, hserves, hleft⟩ := finish_stored hsound (by omega) hactive
        hscript hhandle (failure "create" ns d.name) ns "Created connection secret" d.name
      rw [writeBack_none hns hactive]
      exact ⟨s', hfinish, hserves, hleft ▸ .stored none _⟩
  | @present object found hkeyed hread =>
      cases hsame : found.apply d details == found with
      | true =>
          rw [writeBack_same hsame]
          refine ⟨_, rfl, ⟨rfl, rfl, fun q _ => rfl⟩, ?_⟩
          rw [Session.serverOf_log, hobject]
          exact .same found hsame
      | false =>
          have hafter := (found.apply d details).versionOf_toJson
          rw [Secret.resourceVersion_apply] at hafter
          have hhandle : (s.serverOf store.cluster).handle
              (replaceRequest ns d.name (found.apply d details)).arrived = _ :=
            ApiServer.handle_replace hscript hobject (Secret.versionOf_of_decode hkeyed hread)
              hafter (some Client.managerQuery)
          have hsound := Secret.sound_apply (Secret.sound_of_gives (.inl ⟨_, hread⟩)) d details
          obtain ⟨s', hfinish, hserves, hleft⟩ := finish_stored hsound (by omega) hactive
            hscript hhandle (failure "update" ns d.name) ns "Updated connection secret" d.name
          rw [writeBack_some hns hname hsame hactive]
          exact ⟨s', hfinish, hserves, hleft ▸ .stored (some found) _⟩

/-- **A write succeeds** and leaves the secret with its details put in.  If the secret has
them already, the read of the secret is all that is sent. -/
theorem write_shown (hdestination : owner.destination = some d)
    (hns : isName (store.namespaceOf owner) = true) (hname : isName d.name = true)
    (hactive : ctx.isCancelled s = false) (hscript : (s.serverOf store.cluster).script = [])
    (details : Details)
    (hshows : Shows ((s.serverOf store.cluster).objects.get?
      (Secret.place (store.namespaceOf owner) d.name)) first) :
    ∃ s', (store.toStore.write ctx owner details s).finish = some (.ok (), s')
      ∧ s.Serves s' store.cluster (Secret.place (store.namespaceOf owner) d.name)
      ∧ Leaves (store.namespaceOf owner) d details
          ((s.serverOf store.cluster).objects.get?
            (Secret.place (store.namespaceOf owner) d.name)) first
          ((s'.serverOf store.cluster).objects.get?
            (Secret.place (store.namespaceOf owner) d.name))
      ∧ ∀ found, first = some found → (found.apply d details == found) = true →
          s.sentSince s' = [(store.cluster, readRequest (store.namespaceOf owner) d.name)] := by
  rw [write_eq hdestination]
  obtain ⟨s₁, hserver, hfired, hsent, hfind⟩ := finish_find hns hname hactive hscript hshows
    (goOn store ctx (store.namespaceOf owner) d details)
  -- between the read and the write back nothing has changed
  have hread : s.Serves s₁ store.cluster (Secret.place (store.namespaceOf owner) d.name) :=
    serves_of_take hserver hfired
  have hactive₁ : ctx.isCancelled s₁ = false := by rw [hread.isCancelled_eq, hactive]
  have hscript₁ : (s₁.serverOf store.cluster).script = [] := by rw [hread.script, hscript]
  have hobject₁ : (s₁.serverOf store.cluster).objects.get?
      (Secret.place (store.namespaceOf owner) d.name) = (s.serverOf store.cluster).objects.get?
        (Secret.place (store.namespaceOf owner) d.name) := by
    rw [hserver]
    rfl
  obtain ⟨s', hfinish, hserves, hleaves⟩ :=
    writeBack_shown hns hname hactive₁ hscript₁ details (hobject₁ ▸ hshows)
  have hwrite : ((store.find ctx (store.namespaceOf owner) d.name s).bind
      (passOn (goOn store ctx (store.namespaceOf owner) d details))).finish
        = some (.ok (), s') := by
    rw [hfind, ← hfinish]
    unfold goOn
    rw [if_neg (by rw [hactive₁]; exact Bool.false_ne_true)]
  refine ⟨s', hwrite, hread.trans hserves, hobject₁ ▸ hleaves, ?_⟩
  rintro found rfl hsame
  rw [writeBack_same hsame] at hfinish
  cases hfinish
  exact hsent _

/-! ## §6. What a reader finds afterwards. -/

/-- A reader finds what a write has left, and in it the details of the write. -/
theorem Leaves.shows {before after : Option Json} (h : Leaves ns d details before first after)
    (hshows : Shows before first) :
    ∃ written, Shows after (some written)
      ∧ written.content = (first.getD (Secret.ofName d.name ns)).content.apply d details := by
  have hsound : (first.getD (Secret.ofName d.name ns)).metadata.Sound := by
    cases hshows with
    | absent => exact Secret.sound_ofName d.name ns
    | present hkeyed hread => exact Secret.sound_of_gives (.inl ⟨_, hread⟩)
  cases h with
  | same found hsame =>
      exact ⟨found, hshows, (Secret.same_iff.1 hsame).symm⟩
  | stored first version =>
      have hversion := Secret.sound_withVersion (Secret.sound_apply hsound d details) version
      refine ⟨((toSend ns d details first).withVersion version).kept.kept,
        .present (isKeyed_toJson _) ?_, Secret.content_apply _ d details⟩
      rw [Secret.sent_toJson]
      exact Secret.decode_sent hversion.kept

end ClusterStore

end ConnectionRelay
