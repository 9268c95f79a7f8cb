/-
  ConnectionRelay.Proofs.Cluster.Exchange
  ───────────────────────────────────────
  **ONE REQUEST AND ITS ANSWER.**

  A request waits in a queue until the server takes it, and is then answered at once,
  lost with its connection, or never answered.  `Session.exchange` is that one step, from
  the session in which the server takes the request to the session after it.  Main
  statements:

    • `attempt_ask` — driven under a context, a request is one pause and one exchange,
    • `serverOf_exchange` — what becomes of the server depends on the server alone
      (`ApiServer.handle`),
    • `journal_exchange` — and the request is noted,
    • `sentSince_exchange` — as the only one since the exchange began,
    • `requestsSince_eq` — the requests to one cluster are those of all requests that went
      there.
-/
import ConnectionRelay.Store.Cluster

namespace ConnectionRelay

open Cluster

/-! ## §1. Exchanges. -/

/-- What comes of a request. -/
inductive Fate where
  | answered (response : Response)
  | broken
  | unanswered

namespace Cluster.ApiServer

/-- Take a request and answer it, if it is answered at all. -/
def handle (server : ApiServer) (request : Request) : Fate × ApiServer :=
  let rule := server.nextRule
  if rule.hang then (.unanswered, server.take)
  else if rule.fail then (.broken, server.take)
  else
    let (response, server) := server.take.respond rule request
    (.answered response, server)

end Cluster.ApiServer

namespace Session

/-- The session when the server of a cluster has taken a request. -/
def taken (s : Session) (cluster : String) (request : Request) : Session :=
  let server := s.serverOf cluster
  (((s.serveQueues cluster).note (.requested cluster request)).setServer cluster
    server.take).cancelNamed server.nextRule.cancel

/-- Let the server of a cluster take a request. -/
def exchange (s : Session) (cluster : String) (request : Request) : Fate × Session :=
  let request := request.arrived
  let rule := (s.serverOf cluster).nextRule
  let s := s.taken cluster request
  if rule.hang then (.unanswered, s)
  else if rule.fail then (.broken, s)
  else
    let (response, server) := (s.serverOf cluster).respond rule request
    (.answered response, s.setServer cluster server)

/-! ## §2. What an exchange does to the session. -/

variable (s : Session) (cluster : String) (request : Request)

theorem serverOf_setServer (server : ApiServer) :
    (s.setServer cluster server).serverOf cluster = server := by
  simp [serverOf, setServer]

@[simp] theorem serverOf_log (lines : List LogLine) :
    (s.log lines).serverOf cluster = s.serverOf cluster := rfl

theorem servers_cancelNamed (name : Option String) :
    (s.cancelNamed name).servers = s.servers := by
  unfold cancelNamed
  split
  · unfold cancel; split <;> rfl
  · rfl

theorem journal_cancelNamed (name : Option String) :
    (s.cancelNamed name).journal = s.journal := by
  unfold cancelNamed
  split
  · unfold cancel; split <;> rfl
  · rfl

theorem serverOf_taken :
    (s.taken cluster request).serverOf cluster = (s.serverOf cluster).take := by
  unfold taken serverOf
  rw [servers_cancelNamed]
  exact serverOf_setServer _ _ _

/-- The server answers out of itself. -/
theorem fst_exchange :
    (s.exchange cluster request).1 = ((s.serverOf cluster).handle request.arrived).1 := by
  unfold exchange ApiServer.handle
  simp only [serverOf_taken]
  split
  · rfl
  · split <;> rfl

theorem serverOf_exchange :
    (s.exchange cluster request).2.serverOf cluster
      = ((s.serverOf cluster).handle request.arrived).2 := by
  unfold exchange ApiServer.handle
  simp only [serverOf_taken]
  split
  · exact s.serverOf_taken cluster _
  · split
    · exact s.serverOf_taken cluster _
    · exact serverOf_setServer _ cluster _

theorem journal_taken :
    (s.taken cluster request).journal
      = s.journal ++ (Queue.turn s.servers.keys s.queuesWait cluster).map .logged
          ++ [.requested cluster request] := by
  unfold taken
  rw [journal_cancelNamed]
  rfl

theorem journal_exchange :
    (s.exchange cluster request).2.journal
      = s.journal ++ (Queue.turn s.servers.keys s.queuesWait cluster).map .logged
          ++ [.requested cluster request.arrived] := by
  rw [← journal_taken]
  unfold exchange
  simp only
  split
  · rfl
  · split <;> rfl

end Session

/-! ## §3. The requests of a stretch of time. -/

namespace Event

/-- The request of an event, with the cluster it went to. -/
def sent? : Event → Option (String × Request)
  | .requested cluster request => some (cluster, request)
  | _ => none

theorem request?_eq (cluster : String) (e : Event) :
    e.request? cluster
      = e.sent?.bind fun sent => if sent.1 = cluster then some sent.2 else none := by
  cases e <;> rfl

/-- The requests to one cluster are found among all requests. -/
theorem filterMap_request? (cluster : String) (events : List Event) :
    events.filterMap (request? cluster)
      = (events.filterMap sent?).filterMap fun sent =>
          if sent.1 = cluster then some sent.2 else none := by
  have hrequest : request? cluster
      = fun e => e.sent?.bind fun sent => if sent.1 = cluster then some sent.2 else none :=
    funext (request?_eq cluster)
  rw [List.filterMap_filterMap, hrequest]

/-- Log lines are no requests. -/
theorem filterMap_sent?_logged (lines : List LogLine) :
    (lines.map logged).filterMap sent? = [] := by
  rw [List.filterMap_map, List.filterMap_eq_nil_iff]
  exact fun line _ => rfl

theorem filterMap_request?_logged (cluster : String) (lines : List LogLine) :
    (lines.map logged).filterMap (request? cluster) = [] := by
  rw [filterMap_request?, filterMap_sent?_logged, List.filterMap_nil]

end Event

namespace Session

/-- The requests that were taken from one session to a later one. -/
def sentSince (s s' : Session) : List (String × Request) :=
  (s'.journal.drop s.journal.length).filterMap Event.sent?

/-- The requests to a cluster that were noted since an earlier session. -/
def requestsSince (s' s : Session) (cluster : String) : List Request :=
  (s'.journal.drop s.journal.length).filterMap (Event.request? cluster)

@[simp] theorem log_nil (s : Session) : s.log [] = s := by simp [log]

@[simp] theorem log_log (s : Session) (lines more : List LogLine) :
    (s.log lines).log more = s.log (lines ++ more) := by
  simp [log]

/-- **The requests to one cluster** are those of all requests that went there. -/
theorem requestsSince_eq (s' s : Session) (cluster : String) :
    s'.requestsSince s cluster
      = (s.sentSince s').filterMap fun sent => if sent.1 = cluster then some sent.2 else none :=
  Event.filterMap_request? cluster _

theorem sentSince_self (s : Session) : s.sentSince s = [] := by
  rw [sentSince, List.drop_length, List.filterMap_nil]

@[simp] theorem requestsSince_self (s : Session) (cluster : String) :
    s.requestsSince s cluster = [] := by
  rw [requestsSince_eq, sentSince_self, List.filterMap_nil]

theorem sentSince_log (s : Session) (lines : List LogLine) : sentSince s (s.log lines) = [] := by
  simp only [sentSince, log, List.drop_left, Event.filterMap_sent?_logged]

theorem requestsSince_log (s : Session) (lines : List LogLine) (cluster : String) :
    (s.log lines).requestsSince s cluster = [] := by
  rw [requestsSince_eq, sentSince_log, List.filterMap_nil]

/-- An exchange is its request, whatever is logged before and afterwards. -/
theorem sentSince_exchange (s : Session) (before after : List LogLine) (cluster : String)
    (request : Request) :
    s.sentSince (((s.log before).exchange cluster request).2.log after)
      = [(cluster, request.arrived)] := by
  have hjournal : (((s.log before).exchange cluster request).2.log after).journal
      = s.journal ++ (before.map .logged
          ++ ((Queue.turn s.servers.keys s.queuesWait cluster).map .logged
            ++ .requested cluster request.arrived :: after.map .logged)) := by
    show ((s.log before).exchange cluster request).2.journal ++ _ = _
    rw [journal_exchange, List.append_assoc, List.append_assoc]
    exact List.append_assoc ..
  simp only [sentSince, hjournal, List.drop_left, List.filterMap_append,
    Event.filterMap_sent?_logged, List.nil_append, List.filterMap_cons, Event.sent?]

theorem requestsSince_exchange (s : Session) (before after : List LogLine) (cluster : String)
    (request : Request) :
    (((s.log before).exchange cluster request).2.log after).requestsSince s cluster
      = [request.arrived] := by
  rw [requestsSince_eq, sentSince_exchange, List.filterMap_cons, if_pos rfl,
    List.filterMap_nil]

end Session

/-! ## §4. Requests as tasks. -/

variable {α β : Type} (cluster : String) (request : Request) (s : Session)

theorem send_apply :
    Operation.send cluster request s =
      .paused (s.log [Queue.entered]) fun s' =>
        match s'.exchange cluster request with
        | (.answered response, s'') => .done (some response) s''
        | (.broken, s'') => .done none s''
        | (.unanswered, s'') => .never s'' := by
  unfold Operation.send
  simp only [Task.bind_apply, Task.modify, Task.pause, Task.get, Progress.bind]
  congr 1
  funext s'
  -- the queues only write to the journal
  have hqueue : (s'.serveQueues cluster).serverOf cluster = s'.serverOf cluster := rfl
  unfold Session.exchange
  simp only [hqueue]
  split
  · rfl
  · split <;> rfl

theorem ask_apply (d : Wire.Decoder α) (look : Response → Option β) :
    Client.ask cluster (some request) d look s =
      .paused (s.log [Queue.entered]) fun s' =>
        match s'.exchange cluster request with
        | (.answered r, s'') => .done (look r) (s''.log (r.remarks d))
        | (.broken, s'') => .done none s''
        | (.unanswered, s'') => .never s'' := by
  unfold Client.ask
  simp only [Task.bind_apply, send_apply, Progress.bind]
  congr 1
  funext s'
  rcases s'.exchange cluster request with ⟨fate, s''⟩
  cases fate <;> rfl

/-- An object that can be read is understood as an answer. -/
theorem Cluster.Response.object?_of_read {d : Wire.Decoder α} {object : Json} {a : α}
    (hread : d.value object.sent = .ok a) {status : Nat} (hstatus : status < 400) :
    (Response.mk status (.json object)).object? d = some a := by
  have herror : (Response.mk status (.json object)).isError = false := by
    unfold Response.isError
    simp only [Bool.and_eq_false_iff, decide_eq_false_iff_not]
    omega
  have hdecode : (Response.mk status (.json object)).decode d = .ok a := hread
  unfold Response.object?
  rw [herror, hdecode]
  rfl

namespace ClusterStore

variable {ctx : Context}

/-- What the store makes of the answer to a request that it drives under a context. -/
def settle (ctx : Context) (f : Failure) (d : Wire.Decoder α) (look : Response → Option β) :
    Fate × Session → Progress Session (Except Failure β)
  | (.answered r, s) => .done ((look r).elim (.error f) .ok) (s.log (r.remarks d))
  | (.broken, s) => .done (.error f) s
  | (.unanswered, s) =>
      .waiting s ctx.isCancelled fun s => .done (.error (.relay .cancelled)) s

theorem attempt_of_isCancelled {s : Session} (h : ctx.isCancelled s = true) (f : Failure)
    (t : Operation (Option α)) :
    attempt ctx f t s = .done (.error (.relay .cancelled)) s := by
  unfold attempt
  rw [Task.bind_apply, Context.run_of_isCancelled h]
  rfl

/-- **One request is one pause and one exchange**, unless the context is cancelled. -/
theorem attempt_ask {s : Session} (h : ctx.isCancelled s = false) (f : Failure)
    (d : Wire.Decoder α) (look : Response → Option β) :
    attempt ctx f (Client.ask cluster (some request) d look) s =
      .paused (s.log [Queue.entered]) fun s' =>
        if ctx.isCancelled s' then .done (.error (.relay .cancelled)) s'
        else settle ctx f d look (s'.exchange cluster request) := by
  unfold attempt
  simp only [Task.bind_apply, Context.run_of_active h, ask_apply, Context.guard, Progress.bind]
  congr 1
  funext s'
  cases hs : ctx.isCancelled s' with
  | true => rfl
  | false =>
      rcases s'.exchange cluster request with ⟨fate, s''⟩
      cases fate with
      | answered r => cases hr : look r <;> simp [settle, Context.guard, Progress.bind, hr]
      | broken => rfl
      | unanswered => rfl

end ClusterStore

end ConnectionRelay
