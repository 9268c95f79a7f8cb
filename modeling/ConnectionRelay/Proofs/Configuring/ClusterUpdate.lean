/-
  ConnectionRelay.Proofs.Configuring.ClusterUpdate
  ────────────────────────────────────────────────
  **STORING A COMPOSITE IN A CLUSTER IS ONE REQUEST.**

  The updater of a cluster sends one request and takes the answer over, or fails: the
  composite cannot be written as an object, the request cannot be sent, the connection
  breaks, the server refuses or answers something else, or the context is cancelled.
  Main statements:

    • `run_ofCluster` — driven under a context, it is one pause and one exchange,
    • `ends_ofCluster` — it ends with the composite as it was, or with what the server
      answered.
-/
import ConnectionRelay.Proofs.Cancellation.Operations
import ConnectionRelay.Proofs.Configuring.Call

namespace ConnectionRelay

open Cluster

/-! ## §1. The request. -/

namespace Updater

/-- The request that stores a composite, if there is one. -/
def request? (composite : Resource) : Option Request :=
  match composite.metadata.name, composite.toDynamic with
  | some name, .ok object =>
      Client.replaceRequest? ((ApiResource.ofType composite.type).path composite.metadata.ns) name
        object.toJson
  | _, _ => none

/-- The failure to store a composite in a cluster. -/
def failure (composite : Resource) : Failure :=
  unreplaced (ApiResource.ofType composite.type) composite.name

/-- What the updater of a cluster does when its request comes out. -/
def conclude (ctx : Context) (sent : Resource) :
    Fate × Session → Resource →
      Progress (Session × Resource) (Except ConnectionError (Except Failure Unit))
  | (.answered response, s), composite =>
      let s := s.log (response.remarks DynamicObject.decode)
      match response.object? DynamicObject.decode with
      | none => .done (.ok (.error (failure sent))) (s, composite)
      | some stored =>
          .done (.ok (taken stored))
            (takeOver (ApiResource.ofType sent.type) sent.name stored (s, composite)).state
  | (.broken, s), composite => .done (.ok (.error (failure sent))) (s, composite)
  | (.unanswered, s), composite =>
      .waiting (s, composite) ctx.isCancelled fun st =>
        if ctx.isCancelled st then .done (.error .cancelled) st
        else .done (.ok (.error (.relay .cancelled))) st

variable {ctx : Context} {st : Session × Resource} (cluster : String)

theorem not_driven (e : ConnectionError) :
    (.error e : Except ConnectionError (Except Failure Unit)) ≠ .ok (.ok ()) := by
  intro hok
  cases hok

theorem not_stored (f : Failure) :
    (.ok (.error f) : Except ConnectionError (Except Failure Unit)) ≠ .ok (.ok ()) := by
  intro hok
  cases hok

/-- A composite that cannot be sent is not stored. -/
theorem run_ofCluster_unsent (ctx : Context) (h : request? st.2 = none) :
    ∃ outcome, outcome ≠ .ok (.ok ()) ∧ ctx.run (ofCluster cluster ctx) st = .done outcome st := by
  cases hctx : ctx.isCancelled st with
  | true => exact ⟨_, not_driven .cancelled, Context.run_of_isCancelled hctx _⟩
  | false =>
      rw [Context.run_of_active hctx]
      unfold ofCluster
      rw [Task.bind_apply]
      simp only [CompositeTask.composite, Progress.bind]
      cases hname : st.2.metadata.name with
      | none => exact ⟨_, not_stored (.plain "composite resource has no name"), rfl⟩
      | some name =>
          cases hobject : st.2.toDynamic with
          | error e => exact ⟨_, not_stored (.plain e.message), rfl⟩
          | ok object =>
              refine ⟨_, not_stored (unreplaced (ApiResource.ofType st.2.type) name), ?_⟩
              simp only [request?, hname, hobject] at h
              simp only [put, Client.replace, h, Task.bind_apply, Context.run_of_active hctx]
              rfl

theorem exists_of_request? {composite : Resource} {request : Request}
    (h : request? composite = some request) :
    ∃ name object, composite.metadata.name = some name ∧ composite.toDynamic = .ok object
      ∧ Client.replaceRequest? ((ApiResource.ofType composite.type).path composite.metadata.ns) name
          object.toJson = some request := by
  unfold request? at h
  cases hname : composite.metadata.name with
  | none =>
      rw [hname] at h
      cases h
  | some name =>
      cases hobject : composite.toDynamic with
      | error e =>
          rw [hname, hobject] at h
          cases h
      | ok object =>
          rw [hname, hobject] at h
          exact ⟨name, object, rfl, rfl, h⟩

/-- **One pause and one exchange.** -/
theorem run_ofCluster {request : Request} (h : request? st.2 = some request)
    (hactive : ctx.isCancelled st = false) :
    ctx.run (ofCluster cluster ctx) st =
      .paused (st.1.log [Queue.entered], st.2) fun found =>
        if ctx.isCancelled found then .done (.error .cancelled) found
        else conclude ctx st.2 (found.1.exchange cluster request) found.2 := by
  obtain ⟨name, object, hname, hobject, hreplace⟩ := exists_of_request? h
  have hnamed : st.2.name = name := by rw [Resource.name, hname, Option.getD_some]
  rw [Context.run_of_active hactive]
  unfold ofCluster put Client.replace
  simp only [Task.bind_apply, CompositeTask.composite, Progress.bind, hname, hobject, hreplace,
    Context.run_of_active hactive, Task.onFirst, ask_apply, Progress.widen, Context.guard]
  congr 1
  -- the context is looked at twice, by the updater and by what drives it
  funext found
  cases hctx : ctx.isCancelled found with
  | true => rfl
  | false =>
      rcases found.1.exchange cluster request with ⟨fate, s⟩
      simp only [Bool.false_eq_true, if_false, conclude, hnamed, failure]
      cases fate with
      | answered response =>
          cases hstored : response.object? DynamicObject.decode with
          | none =>
              simp only [hstored, Progress.widen, Context.guard, Progress.bind]
              rfl
          | some stored =>
              simp only [hstored, Progress.widen, Context.guard, Progress.bind]
              show ctx.guard (takeOver _ name stored _) = _
              rw [takeOver_apply]
              rfl
      | broken => rfl
      | unanswered =>
          simp only [Progress.widen, Context.guard, Progress.bind, Bool.or_self]
          rfl

end Updater

/-! ## §2. What it leaves alone. -/

namespace Session

theorem counters_cancelNamed (s : Session) (name : Option String) :
    (s.cancelNamed name).counters = s.counters := by
  unfold cancelNamed
  split
  · unfold cancel; split <;> rfl
  · rfl

/-- Exchanges count nothing. -/
theorem counters_exchange (s : Session) (cluster : String) (request : Request) :
    (s.exchange cluster request).2.counters = s.counters := by
  have htaken : (s.taken cluster request.arrived).counters = s.counters := by
    unfold taken
    rw [counters_cancelNamed]
    rfl
  rw [← htaken]
  unfold exchange
  simp only
  split
  · rfl
  · split <;> rfl

end Session

/-! ## §3. How it ends. -/

namespace Updater

variable {ctx : Context} {st st' : Session × Resource} {cluster : String}
  {changes : List ((Session × Resource) × (Session × Resource))}
  {outcome : Except ConnectionError (Except Failure Unit)}

/-- How storing a composite ends. -/
inductive Ended (cluster : String) (st : Session × Resource)
    (changes : List ((Session × Resource) × (Session × Resource)))
    (outcome : Except ConnectionError (Except Failure Unit)) (st' : Session × Resource) : Prop where
  /-- It fails, and the composite is as it was. -/
  | failed (houtcome : outcome ≠ .ok (.ok ())) (hcomposite : st'.2 = st.2)
  /-- The server answers, and the composite is what it answers. -/
  | stored (houtcome : outcome = .ok (.ok ())) (found : Session × Resource) (request : Request)
      (response : Response) (stored : DynamicObject)
      (hchanges : changes = [((st.1.log [Queue.entered], st.2), found)])
      (hrequest : request? st.2 = some request)
      (hanswered : ((found.1.serverOf cluster).handle request.arrived).1 = .answered response)
      (hobject : response.object? DynamicObject.decode = some stored)
      (hrefreshed : Resource.ofDynamic stored = .ok st'.2)
      (hrequests : st'.1.requestsSince found.1 cluster = [request.arrived])

/-- What an answer is taken over to. -/
theorem takeOver_of_refreshed {stored : DynamicObject} {refreshed : Resource}
    (h : Resource.ofDynamic stored = .ok refreshed) (r : ApiResource) (name : String)
    (st : Session × Resource) :
    ∃ line, (takeOver r name stored st).state = (st.1.log [line], refreshed) := by
  unfold takeOver
  rw [Task.bind_apply, h]
  exact ⟨_, rfl⟩

/-- An answer that is no resource is not taken over. -/
theorem takeOver_of_error {stored : DynamicObject} {e : Wire.DecodeError}
    (h : Resource.ofDynamic stored = .error e) (r : ApiResource) (name : String)
    (st : Session × Resource) :
    ∃ line, (takeOver r name stored st).state = (st.1.log [line], st.2) := by
  unfold takeOver
  rw [Task.bind_apply, h]
  exact ⟨_, rfl⟩

/-- The last turn of storing a composite, or the last two. -/
theorem ends_conclude {request : Request} {found : Session × Resource}
    (hrequest : request? st.2 = some request) (hfound : found.2 = st.2)
    (hends : (conclude ctx st.2 (found.1.exchange cluster request) found.2).Ends changes outcome
      st')
    (halone : CompositeTask.LeftAlone changes) :
    (∀ turn ∈ Progress.turns found changes st', turn.2.1.counters = turn.1.1.counters)
      ∧ Ended cluster st (((st.1.log [Queue.entered], st.2), found) :: changes) outcome st' := by
  have hcounters := found.1.counters_exchange cluster request
  have hfate := found.1.fst_exchange cluster request
  rcases hexchange : found.1.exchange cluster request with ⟨fate, s⟩
  rw [hexchange] at hends hcounters hfate
  cases fate with
  | answered response =>
      simp only [conclude] at hends
      cases hobject : response.object? DynamicObject.decode with
      | none =>
          rw [hobject] at hends
          obtain ⟨rfl, rfl, rfl⟩ := Progress.ends_done_iff.1 hends
          exact ⟨List.forall_mem_singleton.2 hcounters, .failed nofun hfound⟩
      | some stored =>
          rw [hobject] at hends
          obtain ⟨rfl, rfl, hst'⟩ := Progress.ends_done_iff.1 hends
          unfold taken
          cases hrefreshed : Resource.ofDynamic stored with
          | error e =>
              obtain ⟨line, hstate⟩ := takeOver_of_error hrefreshed _ _ _
              rw [hst', hstate]
              exact ⟨List.forall_mem_singleton.2 hcounters, .failed nofun hfound⟩
          | ok refreshed =>
              obtain ⟨line, hstate⟩ := takeOver_of_refreshed hrefreshed _ _ _
              have hrequests := found.1.requestsSince_exchange []
                (response.remarks DynamicObject.decode ++ [line]) cluster request
              rw [Session.log_nil, hexchange, ← Session.log_log] at hrequests
              rw [hst', hstate]
              exact ⟨List.forall_mem_singleton.2 hcounters,
                .stored rfl found request response stored rfl hrequest hfate.symm hobject hrefreshed
                  hrequests⟩
  | broken =>
      obtain ⟨rfl, rfl, rfl⟩ := Progress.ends_done_iff.1 hends
      exact ⟨List.forall_mem_singleton.2 hcounters, .failed nofun hfound⟩
  | unanswered =>
      cases hends with
      | @waiting _ found' _ _ _ rest _ hreleased hends =>
          have hfound' : found'.2 = st.2 := (halone _ List.mem_cons_self).trans hfound
          simp only [hreleased, if_true] at hends
          obtain ⟨rfl, rfl, rfl⟩ := Progress.ends_done_iff.1 hends
          exact ⟨List.forall_mem_cons.2 ⟨hcounters, List.forall_mem_singleton.2 rfl⟩,
            .failed nofun hfound'⟩

/-- An answer that comes under an active context is taken over, and nothing else is sent. -/
theorem ends_of_answered {request : Request} {response : Response} {stored : DynamicObject}
    {refreshed : Resource} {met : Session} (hrequest : request? st.2 = some request)
    (hactive : ctx.isCancelled st = false) (hmet : ctx.isCancelled met = false)
    (hanswered : ((met.serverOf cluster).handle request.arrived).1 = .answered response)
    (hobject : response.object? DynamicObject.decode = some stored)
    (hrefreshed : Resource.ofDynamic stored = .ok refreshed) :
    ∃ s, (ctx.run (ofCluster cluster ctx) st).Ends [((st.1.log [Queue.entered], st.2), (met, st.2))]
        (.ok (.ok ())) (s, refreshed)
      ∧ met.sentSince s = [(cluster, request.arrived)] := by
  have hfate := met.fst_exchange cluster request
  rw [hanswered] at hfate
  rcases hexchange : met.exchange cluster request with ⟨fate, s⟩
  rw [hexchange] at hfate
  obtain rfl : fate = .answered response := hfate
  obtain ⟨line, hstate⟩ := takeOver_of_refreshed hrefreshed (ApiResource.ofType st.2.type)
    st.2.name (s.log (response.remarks DynamicObject.decode), st.2)
  refine ⟨(s.log (response.remarks DynamicObject.decode)).log [line], ?_, ?_⟩
  · rw [run_ofCluster cluster hrequest hactive]
    refine .paused ?_
    have hfound : ctx.isCancelled (met, st.2) = false := hmet
    simp only [hfound, Bool.false_eq_true, if_false, hexchange, conclude, hobject, hstate, taken,
      hrefreshed]
    exact .done _ _
  · have hsent := met.sentSince_exchange [] (response.remarks DynamicObject.decode ++ [line])
      cluster request
    rw [Session.log_nil, hexchange, ← Session.log_log] at hsent
    exact hsent

/-- **How storing a composite ends.**  In all its turns it counts nothing. -/
theorem ends_ofCluster (hends : (ctx.run (ofCluster cluster ctx) st).Ends changes outcome st')
    (halone : CompositeTask.LeftAlone changes) :
    (∀ turn ∈ Progress.turns st changes st', turn.2.1.counters = turn.1.1.counters)
      ∧ Ended cluster st changes outcome st' := by
  rcases Bool.eq_false_or_eq_true (ctx.isCancelled st) with hcancelled | hactive
  · rw [Context.run_of_isCancelled hcancelled, Progress.ends_done_iff] at hends
    obtain ⟨rfl, rfl, rfl⟩ := hends
    exact ⟨List.forall_mem_singleton.2 rfl, .failed nofun rfl⟩
  · cases hrequest : request? st.2 with
    | none =>
        obtain ⟨outcome', hne, hrun⟩ := run_ofCluster_unsent cluster ctx hrequest
        rw [hrun, Progress.ends_done_iff] at hends
        obtain ⟨rfl, rfl, rfl⟩ := hends
        exact ⟨List.forall_mem_singleton.2 rfl, .failed hne rfl⟩
    | some request =>
        rw [run_ofCluster cluster hrequest hactive] at hends
        cases hends with
        | @paused _ found _ _ rest _ hends =>
            have hfound : found.2 = st.2 := halone _ List.mem_cons_self
            rcases Bool.eq_false_or_eq_true (ctx.isCancelled found) with hcancelled | hgo
            · simp only [hcancelled, if_true] at hends
              obtain ⟨rfl, rfl, rfl⟩ := Progress.ends_done_iff.1 hends
              exact ⟨List.forall_mem_cons.2 ⟨rfl, List.forall_mem_singleton.2 rfl⟩,
                .failed nofun hfound⟩
            · simp only [hgo, Bool.false_eq_true, if_false] at hends
              obtain ⟨hturns, hended⟩ := ends_conclude hrequest hfound hends fun change hmem =>
                halone change (List.mem_cons_of_mem _ hmem)
              exact ⟨List.forall_mem_cons.2 ⟨rfl, hturns⟩, hended⟩

end Updater

/-! ## §4. Calls with the updater of a cluster. -/

/-- The requests to a cluster that were noted in some turns. -/
def requestsIn (cluster : String) (turns : List ((Session × Resource) × (Session × Resource))) :
    List Request :=
  turns.flatMap fun turn => turn.2.1.requestsSince turn.1.1 cluster

namespace Configurator

/-- Taking the destination back undoes giving it. -/
theorem withDestination_given {composite : Resource} (hnone : composite.destination = none)
    (store : String) : (given composite store).withDestination none = composite := by
  obtain ⟨type, metadata, ⟨destination, secretRef, fields⟩, status⟩ := composite
  obtain rfl : destination = none := hnone
  rfl

variable {cluster : String} {ctx : Context} {composition : CompositionSpec}
  {before after : Session × Resource}
  {changes : List ((Session × Resource) × (Session × Resource))}
  {result : Except ConnectionError Unit}

/-- A call that fails leaves the composite as it was, and counts nothing in any turn. -/
theorem unchanged_of_error
    (hends : (configure (.ofCluster cluster) ctx composition before).Ends changes result after)
    (halone : CompositeTask.LeftAlone changes) (herror : result ≠ .ok ()) :
    after.2 = before.2
      ∧ ∀ turn ∈ Progress.turns before changes after, turn.2.1.counters = turn.1.1.counters := by
  rcases course ctx composition before with
    ⟨result', hcall, -⟩ | ⟨store, -, -, hnone, -, hcall⟩
  · rw [hcall, Progress.ends_done_iff] at hends
    obtain ⟨rfl, -, rfl⟩ := hends
    exact ⟨rfl, List.forall_mem_singleton.2 rfl⟩
  · rw [hcall, ends_persist_iff] at hends
    obtain ⟨outcome, finish, hrun, hresult, hafter⟩ := hends
    obtain ⟨hturns, hended⟩ := Updater.ends_ofCluster hrun halone
    have houtcome : outcome ≠ .ok (.ok ()) := fun hok =>
      herror (hresult.trans (verdict_eq_ok.2 hok))
    obtain rfl : after = (finish.1, finish.2.withDestination none) :=
      hafter.trans (concluded_of_ne houtcome _)
    refine ⟨?_, Progress.forall_turns_congr (fun st : Session × Resource => st.1.counters)
      (fun c c' => c' = c) (by rfl) (by rfl) hturns⟩
    have hcomposite : finish.2 = given before.2 store := by
      cases hended with
      | failed _ hcomposite => exact hcomposite
      | stored hok => exact absurd hok houtcome
    rw [hcomposite]
    exact withDestination_given hnone store

/-- Before its request a call has only written log lines. -/
theorem requestsSince_announced (composite : Resource) (store : String) (s : Session) :
    ((announced composite store s).log [Queue.entered]).requestsSince s cluster = [] := by
  obtain ⟨line, hline⟩ : ∃ line, announced composite store s = s.log [line] := ⟨_, rfl⟩
  rw [hline, Session.log_log, Session.requestsSince_log]

/-- What a call that had a composite stored leaves behind: one request was sent, and the
composite is what the server answered. -/
structure Refreshed (cluster store : String) (before after : Session × Resource)
    (changes : List ((Session × Resource) × (Session × Resource))) (request : Request)
    (response : Response) (stored : DynamicObject) : Prop where
  sent : ∃ unsent, Updater.request? (given before.2 store) = some unsent ∧ request = unsent.arrived
  requests : requestsIn cluster (Progress.turns before changes after) = [request]
  answered : ∃ left found, changes = [(left, found)]
    ∧ ((found.1.serverOf cluster).handle request).1 = .answered response
  object : response.object? DynamicObject.decode = some stored
  refreshed : Resource.ofDynamic stored = .ok after.2

/-- A call that succeeds leaves the composite as the server answered it. -/
theorem exists_refreshed {store : String}
    (hends : (configure (.ofCluster cluster) ctx composition before).Ends changes (.ok ()) after)
    (halone : CompositeTask.LeftAlone changes) (hstore : composition.defaultStore = some store)
    (hnone : before.2.destination = none) :
    ∃ request response stored,
      Refreshed cluster store before after changes request response stored := by
  obtain ⟨finish, hrun, rfl⟩ := stored_of_ok hends hstore hnone
  cases (Updater.ends_ofCluster hrun halone).2 with
  | failed hfailed _ => exact absurd rfl hfailed
  | stored _ found request response stored hchanges hrequest hanswered hobject hrefreshed
      hrequests =>
      refine ⟨request.arrived, response, stored, ⟨request, hrequest, rfl⟩, ?_,
        ⟨_, found, hchanges, hanswered⟩, hobject, hrefreshed⟩
      rw [hchanges]
      show ((announced before.2 store before.1).log [Queue.entered]).requestsSince before.1 cluster
        ++ (finish.1.requestsSince found.1 cluster ++ []) = _
      rw [requestsSince_announced, List.nil_append, List.append_nil, hrequests]

/-- A call that meets a good answer ends with the composite that the answer is, and has sent
the request that was answered, and nothing else. -/
theorem ends_of_answered {store : String} {composite refreshed : Resource} {s met : Session}
    {unsent : Request} {response : Response} {stored : DynamicObject}
    (hstore : composition.defaultStore = some store)
    (htype : composition.appliesTo composite.type = true) (hnone : composite.destination = none)
    (hactive : ctx.isCancelled s = false) (hmet : ctx.isCancelled met = false)
    (hsent : Updater.request? (given composite store) = some unsent)
    (hanswered : ((met.serverOf cluster).handle unsent.arrived).1 = .answered response)
    (hobject : response.object? DynamicObject.decode = some stored)
    (hrefreshed : Resource.ofDynamic stored = .ok refreshed) :
    ∃ left s', left.2 = given composite store
      ∧ (configure (.ofCluster cluster) ctx composition (s, composite)).Ends
          [(left, (met, left.2))] (.ok ()) (s', refreshed)
      ∧ s.sentSince left.1 = [] ∧ met.sentSince s' = [(cluster, unsent.arrived)] := by
  have hassigned : ctx.isCancelled (assigned store (s, composite)) = false := hactive
  have hrequest : Updater.request? (assigned store (s, composite)).2 = some unsent := hsent
  obtain ⟨s', hrun, hrequests⟩ :=
    Updater.ends_of_answered hrequest hassigned hmet hanswered hobject hrefreshed
  refine ⟨((announced composite store s).log [Queue.entered], given composite store),
    s'.count .configured 1, rfl, ?_, ?_, hrequests⟩
  · rw [configure_of_unset hstore htype hnone hactive, ends_persist_iff]
    exact ⟨_, _, hrun, rfl, rfl⟩
  · obtain ⟨line, hline⟩ : ∃ line, announced composite store s = s.log [line] := ⟨_, rfl⟩
    rw [hline, Session.log_log, Session.sentSince_log]

end Configurator

/-! ## §5. A database in a cluster. -/

namespace Sample

/-- The destination that the database is given. -/
def kept : Option Destination := some (.inStore "u-1" "default")

/-- A server accepts the database, and answers it with some destination. -/
def accepting (d : Option Destination) : Response :=
  ⟨200, .json (.record
    [("apiVersion", some (.str "example.org/v1")),
     ("kind", some (.str "Database")),
     ("metadata", some (.record
       [("name", some (.str "db")), ("uid", some (.str "u-1")),
        ("resourceVersion", some (.str "7"))])),
     ("spec", some (.record [("publishConnectionDetailsTo", d.map Destination.toJson)]))])⟩

/-- The object that the server answers. -/
def storedObject (d : Option Destination) : DynamicObject :=
  { types := some composite.type
    metadata := { name := some "db", uid := some "u-1", resourceVersion := some "7" }
    data := .ofList
      [("spec", .record [("publishConnectionDetailsTo", d.map Destination.toJson)])] }

/-- The database as it is then. -/
def stored (d : Option Destination) : Resource :=
  { type := composite.type
    metadata := { name := some "db", uid := some "u-1", resourceVersion := some "7" }
    spec := { destination := d } }

/-- It is stored where the server accepts what it is sent. -/
theorem ends_kept {s met : Session} {ctx : Context} (hactive : ctx.isCancelled s = false)
    (hmet : ctx.isCancelled met = false) (haccepts : ∀ request,
      ((met.serverOf "east").handle request).1 = .answered (accepting kept)) :
    ∃ left s', (Configurator.configure (.ofCluster "east") ctx composition (s, composite)).Ends
      [(left, (met, left.2))] (.ok ()) (s', stored kept) := by
  obtain ⟨unsent, hsent⟩ : ∃ unsent,
      Updater.request? (Configurator.given composite "default") = some unsent := ⟨_, rfl⟩
  have hobject : (accepting kept).object? DynamicObject.decode = some (storedObject kept) := rfl
  have hrefreshed : Resource.ofDynamic (storedObject kept) = .ok (stored kept) := rfl
  have hstore : composition.defaultStore = some "default" := rfl
  obtain ⟨left, s', -, hends, -⟩ := Configurator.ends_of_answered hstore (by decide) rfl hactive
    hmet hsent (haccepts unsent.arrived) hobject hrefreshed
  exact ⟨left, s', hends⟩

end Sample

end ConnectionRelay
