/-
  ConnectionRelay.Proofs.Store.WriteCourse
  ────────────────────────────────────────
  **THE COURSE OF A WRITE TO A CLUSTER.**

  A write may be cancelled at any of its suspensions, the server may answer what it likes,
  and others may do anything in between.  In all of this the write reads its secret first,
  sends at most one more request, and touches of what it has read only what is its own.
  `Stage` tells how far a write has come together with the requests that it has sent.  Main
  statements:

    • `stage_turn`, `stage_of_reaches` — what a turn of a write does, and where a write can be,
    • `overlaid_apply` — putting details in touches nothing else,
    • `course_of_write` — the requests of a write, and when it succeeds.
-/
import ConnectionRelay.Proofs.Store.ClusterWrite
import ConnectionRelay.Proofs.Task.Reaching

namespace ConnectionRelay

open Cluster

/-! ## §1. Requests that were taken. -/

/-- A request that the server of a cluster has taken, with what came of it. -/
structure Served where
  cluster : String
  request : Request
  fate : Fate

/-- A request was answered, and the answer was one to the request: for a read a secret, or
that there is none, and for a write the secret as it was stored. -/
def Served.Granted (served : Served) : Prop :=
  ∃ response, served.fate = .answered response ∧
    match served.request.method with
    | .get => (Client.readAnswer Secret.decode response).isSome = true
    | _ => (response.object? Secret.decode).isSome = true

/-- The answer to a read is a secret, or says that there is none. -/
theorem Cluster.Client.readAnswer_cases {response : Response} {existing : Option Secret}
    (h : Client.readAnswer Secret.decode response = some existing) :
    (existing = none ∧ response.isError = true ∧ response.isNotFound = true)
      ∨ ∃ found, existing = some found ∧ response.object? Secret.decode = some found := by
  unfold Client.readAnswer at h
  by_cases herror : response.isError = true
  · simp only [herror, if_true, Option.ite_none_right_eq_some, Option.some.injEq] at h
    exact .inl ⟨h.2.symm, herror, h.1⟩
  · rw [if_neg herror] at h
    obtain ⟨found, hfound, rfl⟩ := Option.map_eq_some_iff.1 h
    exact .inr ⟨found, rfl, hfound⟩

/-- A secret is an answer to a read. -/
theorem Cluster.Client.readAnswer_of_object {response : Response} {found : Secret}
    (h : response.object? Secret.decode = some found) :
    (Client.readAnswer Secret.decode response).isSome = true := by
  have herror : response.isError = false := by
    unfold Response.object? at h
    by_cases herror : response.isError = true
    · rw [if_pos herror] at h
      cases h
    · exact Bool.eq_false_iff.2 herror
  rw [Client.readAnswer, if_neg (Bool.eq_false_iff.1 herror), h]
  rfl

namespace Session

/-- The requests that were taken in a turn.  A turn of a write holds one at most, so what
came of it was decided by the server that the turn found. -/
def servedIn (turn : Session × Session) : List Served :=
  (sentSince turn.1 turn.2).map fun (cluster, request) =>
    ⟨cluster, request, ((turn.1.serverOf cluster).handle request).1⟩

/-- The requests that were taken in some turns. -/
def servedOver (turns : List (Session × Session)) : List Served := turns.flatMap servedIn

@[simp] theorem servedOver_concat (turns : List (Session × Session)) (turn : Session × Session) :
    servedOver (turns ++ [turn]) = servedOver turns ++ servedIn turn := by
  simp [servedOver]

theorem servedIn_log (s : Session) (lines : List LogLine) : servedIn (s, s.log lines) = [] := by
  rw [servedIn, sentSince_log, List.map_nil]

theorem servedIn_self (s : Session) : servedIn (s, s) = [] := by
  rw [servedIn, sentSince_self, List.map_nil]

/-- An exchange takes one request, whatever is logged after it. -/
theorem servedIn_exchange (s : Session) (cluster : String) (request : Request)
    (lines : List LogLine) :
    servedIn (s, (s.exchange cluster request).2.log lines)
      = [⟨cluster, request.arrived, (s.exchange cluster request).1⟩] := by
  have hsent := s.sentSince_exchange [] lines cluster request
  rw [log_nil] at hsent
  rw [servedIn, hsent, fst_exchange]
  rfl

end Session

/-- A write is not cancelled: its context is active at the start of each of its turns, and
when its read has been answered. -/
structure Uncancelled (ctx : Context) (turns : List (Session × Session)) : Prop where
  start : ∀ turn ∈ turns, ctx.isCancelled turn.1 = false
  read : ∀ turn ∈ turns, (∃ served ∈ Session.servedIn turn, served.request.method = .get) →
    ctx.isCancelled turn.2 = false

namespace Uncancelled

variable {ctx : Context} {turns : List (Session × Session)} {turn : Session × Session}

theorem nil : Uncancelled ctx [] := ⟨nofun, nofun⟩

theorem concat (h : Uncancelled ctx turns) (hstart : ctx.isCancelled turn.1 = false)
    (hread : (∃ served ∈ Session.servedIn turn, served.request.method = .get) →
      ctx.isCancelled turn.2 = false) : Uncancelled ctx (turns ++ [turn]) := by
  refine ⟨fun t ht => ?_, fun t ht => ?_⟩
  · rcases List.mem_append.1 ht with ht | ht
    · exact h.start t ht
    · exact List.mem_singleton.1 ht ▸ hstart
  · rcases List.mem_append.1 ht with ht | ht
    · exact h.read t ht
    · exact List.mem_singleton.1 ht ▸ hread

/-- A turn that starts under a cancelled context cancels. -/
theorem not_of_start (hstart : ctx.isCancelled turn.1 = true) :
    ¬ Uncancelled ctx (turns ++ [turn]) := fun h => by
  have hactive := h.start turn (by simp)
  rw [hstart] at hactive
  cases hactive

/-- A read after which the context is cancelled cancels. -/
theorem not_of_read (hread : ∃ served ∈ Session.servedIn turn, served.request.method = .get)
    (hcancelled : ctx.isCancelled turn.2 = true) :
    ¬ Uncancelled ctx (turns ++ [turn]) := fun h => by
  have hactive := h.read turn (by simp) hread
  rw [hcancelled] at hactive
  cases hactive

end Uncancelled

/-! ## §2. What is put into a secret. -/

/-- A secret has the given details, labels, annotations and type, and is otherwise the one
that was read. -/
structure Overlaid (read : Secret) (d : Destination) (details : Details) (sent : Secret) :
    Prop where
  data : ∀ k, sent.details.get? k = (details.get? k).or (read.details.get? k)
  labels : ∀ k, (sent.metadata.labels.getD .empty).get? k
    = ((d.metadata.bind (·.labels)).bind (·.get? k)).or
        ((read.metadata.labels.getD .empty).get? k)
  annotations : ∀ k, (sent.metadata.annotations.getD .empty).get? k
    = ((d.metadata.bind (·.annotations)).bind (·.get? k)).or
        ((read.metadata.annotations.getD .empty).get? k)
  type : sent.type = (d.metadata.bind (·.type)).or read.type
  others : { sent with
      data := read.data
      type := read.type
      metadata := { sent.metadata with
        labels := read.metadata.labels, annotations := read.metadata.annotations } } = read

/-- A table is overlaid key by key. -/
theorem Cluster.Secret.get?_overlay (into above : Option (Dict String)) (k : String) :
    ((Secret.overlay into above).getD .empty).get? k
      = (above.bind (·.get? k)).or ((into.getD .empty).get? k) := by
  cases above with
  | none => rfl
  | some d => exact Dict.get?_merge _ d k

/-- Putting details in touches nothing else. -/
theorem overlaid_apply (read : Secret) (d : Destination) (details : Details) :
    Overlaid read d details (read.apply d details) := by
  obtain ⟨name, configRef, extra⟩ := d
  refine ⟨fun k => Dict.get?_merge _ details k, fun k => ?_, fun k => ?_, ?_, rfl⟩
  · cases extra with
    | none => exact Secret.get?_overlay _ none k
    | some extra => exact Secret.get?_overlay _ extra.labels k
  · cases extra with
    | none => exact Secret.get?_overlay _ none k
    | some extra => exact Secret.get?_overlay _ extra.annotations k
  · cases extra <;> rfl

/-! ## §3. The requests of a write. -/

namespace ClusterStore

/-- What a write sends after the answer to its read: a new secret if the answer is that
there is none, and the secret that was read, with the details put in, if that changes it. -/
inductive Follows (ns : String) (d : Destination) (details : Details) (response : Response) :
    Request → Prop where
  | create (herror : response.isError = true) (hmissing : response.isNotFound = true) :
      Follows ns d details response (createRequest ns ((Secret.ofName d.name ns).apply d details))
  | replace (found : Secret) (hfound : response.object? Secret.decode = some found)
      (hchanged : (found.apply d details == found) = false) :
      Follows ns d details response (replaceRequest ns d.name (found.apply d details))

/-- The requests that a write of details may send, each with what comes of it. -/
inductive Course (cluster ns : String) (d : Destination) (details : Details) :
    List Served → Prop where
  /-- It sends none. -/
  | unsent : Course cluster ns d details []
  /-- It reads the secret. -/
  | read (fate : Fate) : Course cluster ns d details [⟨cluster, readRequest ns d.name, fate⟩]
  /-- It reads the secret, and goes on with the answer. -/
  | written (response : Response) (request : Request) (fate : Fate)
      (hfollows : Follows ns d details response request) :
      Course cluster ns d details
        [⟨cluster, readRequest ns d.name, .answered response⟩, ⟨cluster, request.arrived, fate⟩]

variable {store : ClusterStore} {ctx : Context} {cluster ns : String} {d : Destination}
  {details : Details} {own : List (Session × Session)}

theorem Follows.method_ne_get {response : Response} {request : Request}
    (h : Follows ns d details response request) : request.method ≠ .get := by
  cases h <;> exact nofun

/-- What follows a read is granted if the secret is answered as it was stored. -/
theorem Follows.granted_iff {response : Response} {request : Request}
    (h : Follows ns d details response request) {fate : Fate} :
    Served.Granted ⟨cluster, request.arrived, fate⟩
      ↔ ∃ answer, fate = .answered answer ∧ (answer.object? Secret.decode).isSome = true := by
  cases h <;> exact Iff.rfl

/-- How far a write has come, with the turns it has had. -/
inductive Stage (store : ClusterStore) (ctx : Context) (ns : String) (d : Destination)
    (details : Details) (own : List (Session × Session)) :
    Progress Session (Except Failure Unit) → Prop where
  /-- Its read is in the queue. -/
  | reading (start left : Session) (hown : own = [(start, left)])
      (hserved : Session.servedOver own = []) (hactive : Uncancelled ctx own) :
      Stage store ctx ns d details own (.paused left (whenRead store ctx ns d details))
  /-- Its read was answered, and another request is in the queue. -/
  | writing (left : Session) (response : Response) (request : Request) (f : Failure)
      (before : String)
      (hown : Session.servedOver own
        = [⟨store.cluster, readRequest ns d.name, .answered response⟩])
      (hfollows : Follows ns d details response request) (hactive : Uncancelled ctx own) :
      Stage store ctx ns d details own
        (.paused left (driven ctx store.cluster request f Secret.decode
          (·.object? Secret.decode) (ended ns before d.name)))
  /-- One of its requests is not answered. -/
  | unanswered (left : Session) (hown : Course store.cluster ns d details (Session.servedOver own))
      (hfailed : ∃ served ∈ Session.servedOver own, ¬ served.Granted) :
      Stage store ctx ns d details own
        (.waiting left ctx.isCancelled fun s => .done (.error (.relay .cancelled)) s)
  /-- One of its requests has failed. -/
  | failed (f : Failure) (left : Session)
      (hown : Course store.cluster ns d details (Session.servedOver own))
      (hfailed : ∃ served ∈ Session.servedOver own, ¬ served.Granted) :
      Stage store ctx ns d details own (.done (.error f) left)
  /-- It was cancelled. -/
  | cancelled (left : Session) (hown : Course store.cluster ns d details (Session.servedOver own))
      (hcancelled : ¬ Uncancelled ctx own) :
      Stage store ctx ns d details own (.done (.error (.relay .cancelled)) left)
  /-- What it has read would not change. -/
  | same (left : Session) (response : Response) (found : Secret)
      (hown : Session.servedOver own
        = [⟨store.cluster, readRequest ns d.name, .answered response⟩])
      (hfound : response.object? Secret.decode = some found)
      (hsame : (found.apply d details == found) = true) (hactive : Uncancelled ctx own) :
      Stage store ctx ns d details own (.done (.ok ()) left)
  /-- What it has sent was stored. -/
  | stored (left : Session) (response answer : Response) (request : Request)
      (hown : Session.servedOver own
        = [⟨store.cluster, readRequest ns d.name, .answered response⟩,
           ⟨store.cluster, request.arrived, .answered answer⟩])
      (hfollows : Follows ns d details response request)
      (hstored : (answer.object? Secret.decode).isSome = true) (hactive : Uncancelled ctx own) :
      Stage store ctx ns d details own (.done (.ok ()) left)

/-! ## §4. What a turn does. -/

/-- What a request comes to under an active context. -/
theorem driven_of_active {α β γ : Type} {s : Session} (hactive : ctx.isCancelled s = false)
    (cluster : String) (request : Request) (f : Failure) (decoder : Wire.Decoder β)
    (look : Response → Option γ)
    (next : γ → Session → Progress Session (Except Failure α)) :
    (∃ response b, (s.exchange cluster request).1 = .answered response ∧ look response = some b
        ∧ driven ctx cluster request f decoder look next s
          = next b ((s.exchange cluster request).2.log (response.remarks decoder)))
    ∨ (∀ response, (s.exchange cluster request).1 = .answered response → look response = none)
        ∧ ((∃ lines, driven ctx cluster request f decoder look next s
              = .done (.error f) ((s.exchange cluster request).2.log lines))
          ∨ driven ctx cluster request f decoder look next s
              = .waiting (s.exchange cluster request).2 ctx.isCancelled fun s =>
                  .done (.error (.relay .cancelled)) s) := by
  rw [driven, if_neg (Bool.eq_false_iff.1 hactive)]
  rcases s.exchange cluster request with ⟨fate, s'⟩
  cases fate with
  | answered response =>
      cases hlook : look response with
      | some b =>
          refine .inl ⟨response, b, rfl, hlook, ?_⟩
          simp only [settle, Progress.bind, hlook, Option.elim, passOn]
      | none =>
          refine .inr ⟨fun _ h => ?_, .inl ⟨response.remarks decoder, ?_⟩⟩
          · cases h
            exact hlook
          · simp only [settle, Progress.bind, hlook, Option.elim, passOn]
  | broken =>
      refine .inr ⟨fun _ h => ?_, .inl ⟨[], ?_⟩⟩
      · cases h
      · simp [settle, Progress.bind, passOn]
  | unanswered =>
      refine .inr ⟨fun _ h => ?_, .inr rfl⟩
      cases h

theorem driven_of_cancelled {α β γ : Type} {s : Session} (hcancelled : ctx.isCancelled s = true)
    (cluster : String) (request : Request) (f : Failure) (decoder : Wire.Decoder β)
    (look : Response → Option γ)
    (next : γ → Session → Progress Session (Except Failure α)) :
    driven ctx cluster request f decoder look next s = .done (.error (.relay .cancelled)) s :=
  if_pos hcancelled

/-- What follows an answer to a read follows one that was understood. -/
theorem Follows.understood {response : Response} {request : Request}
    (h : Follows ns d details response request) :
    (Client.readAnswer Secret.decode response).isSome = true := by
  cases h with
  | create herror hmissing =>
      rw [Client.readAnswer, if_pos herror, if_pos hmissing]
      rfl
  | replace found hfound hchanged => exact Client.readAnswer_of_object hfound

namespace Stage

variable {s : Session} {p : Progress Session (Except Failure Unit)}

/-- A turn that starts under a cancelled context. -/
theorem cancel (hown : Course store.cluster ns d details (Session.servedOver own))
    (hctx : ctx.isCancelled s = true) :
    Stage store ctx ns d details (own ++ [(s, s)]) (.done (.error (.relay .cancelled)) s) := by
  refine .cancelled s ?_ (Uncancelled.not_of_start hctx)
  rw [Session.servedOver_concat, Session.servedIn_self, List.append_nil]
  exact hown

/-- A turn in which a request is not granted. -/
theorem refuse {request : Request} {f : Failure}
    (hown : Course store.cluster ns d details (Session.servedOver own
      ++ [⟨store.cluster, request.arrived, (s.exchange store.cluster request).1⟩]))
    (hrefused : ¬ Served.Granted
      ⟨store.cluster, request.arrived, (s.exchange store.cluster request).1⟩)
    (hp : (∃ lines, p = .done (.error f) ((s.exchange store.cluster request).2.log lines))
      ∨ p = .waiting (s.exchange store.cluster request).2 ctx.isCancelled fun s =>
          .done (.error (.relay .cancelled)) s) :
    Stage store ctx ns d details (own ++ [(s, p.state)]) p := by
  have hserved (lines : List LogLine) :
      Session.servedOver (own ++ [(s, (s.exchange store.cluster request).2.log lines)])
        = Session.servedOver own
          ++ [⟨store.cluster, request.arrived, (s.exchange store.cluster request).1⟩] := by
    rw [Session.servedOver_concat, Session.servedIn_exchange]
  rcases hp with ⟨lines, rfl⟩ | rfl
  · refine .failed f _ ?_ ⟨_, ?_, hrefused⟩
    · rw [Progress.state, hserved lines]
      exact hown
    · rw [Progress.state, hserved lines]
      exact List.mem_append_right _ List.mem_cons_self
  · -- nothing is logged about a request that is not answered
    have hplain := hserved []
    rw [Session.log_nil] at hplain
    refine .unanswered _ ?_ ⟨_, ?_, hrefused⟩
    · rw [Progress.state, hplain]
      exact hown
    · rw [Progress.state, hplain]
      exact List.mem_append_right _ List.mem_cons_self

/-- What is done with the answer to the read, in the turn in which it comes. -/
theorem goOn (hns : isName ns = true) (hname : isName d.name = true)
    (hserved : Session.servedOver own = []) (hactive : Uncancelled ctx own)
    (hctx : ctx.isCancelled s = false) {response : Response} {existing : Option Secret}
    (hfate : (s.exchange store.cluster (readRequest ns d.name)).1 = .answered response)
    (hlook : Client.readAnswer Secret.decode response = some existing)
    (remarks : List LogLine)
    (hp : store.goOn ctx ns d details existing
      ((s.exchange store.cluster (readRequest ns d.name)).2.log remarks) = p) :
    Stage store ctx ns d details (own ++ [(s, p.state)]) p := by
  obtain ⟨answered, hanswered⟩ :
      ∃ t, t = (s.exchange store.cluster (readRequest ns d.name)).2.log remarks := ⟨_, rfl⟩
  rw [← hanswered] at hp
  have hturn (lines : List LogLine) : Session.servedIn (s, answered.log lines)
      = [⟨store.cluster, readRequest ns d.name, .answered response⟩] := by
    rw [hanswered, Session.log_log, Session.servedIn_exchange, hfate]
    rfl
  have hover (lines : List LogLine) : Session.servedOver (own ++ [(s, answered.log lines)])
      = [⟨store.cluster, readRequest ns d.name, .answered response⟩] := by
    rw [Session.servedOver_concat, hserved, List.nil_append, hturn lines]
  -- the context is looked at again before anything is done with the answer
  cases hafter : ctx.isCancelled answered with
  | true =>
      have hself : answered.log [] = answered := answered.log_nil
      rw [ClusterStore.goOn, if_pos hafter] at hp
      subst hp
      refine .cancelled _ ?_ (Uncancelled.not_of_read ?_ hafter)
      · rw [Progress.state, ← hself, hover []]
        exact .read _
      · rw [Progress.state, ← hself, hturn []]
        exact ⟨_, List.mem_cons_self, rfl⟩
  | false =>
      have hactive' (lines : List LogLine) : Uncancelled ctx (own ++ [(s, answered.log lines)]) :=
        hactive.concat hctx fun _ => hafter
      rw [ClusterStore.goOn, if_neg (Bool.eq_false_iff.1 hafter)] at hp
      rcases Client.readAnswer_cases hlook with ⟨rfl, herror, hmissing⟩ | ⟨found, rfl, hfound⟩
      · rw [writeBack_none hns hafter] at hp
        subst hp
        exact .writing _ response _ _ _ (hover _) (.create herror hmissing) (hactive' _)
      · cases hsame : found.apply d details == found with
        | true =>
            rw [writeBack_same hsame] at hp
            subst hp
            exact .same _ response found (hover _) hfound hsame (hactive' _)
        | false =>
            rw [writeBack_some hns hname hsame hafter] at hp
            subst hp
            exact .writing _ response _ _ _ (hover _) (.replace found hfound hsame) (hactive' _)

/-- The turn in which the server takes the read. -/
theorem read (hns : isName ns = true) (hname : isName d.name = true)
    (hserved : Session.servedOver own = []) (hactive : Uncancelled ctx own)
    (hp : whenRead store ctx ns d details s = p) :
    Stage store ctx ns d details (own ++ [(s, p.state)]) p := by
  rw [whenRead] at hp
  cases hctx : ctx.isCancelled s with
  | true =>
      rw [driven_of_cancelled hctx] at hp
      subst hp
      exact cancel (hserved ▸ .unsent) hctx
  | false =>
      rcases driven_of_active hctx store.cluster (readRequest ns d.name)
        (failure "get" ns d.name) Secret.decode (Client.readAnswer Secret.decode)
        (store.goOn ctx ns d details) with
        ⟨response, existing, hfate, hlook, hdriven⟩ | ⟨hnone, hend⟩
      · exact goOn hns hname hserved hactive hctx hfate hlook _ (hdriven.symm.trans hp)
      · rw [hp] at hend
        refine refuse ?_ ?_ hend
        · rw [hserved]
          exact .read _
        · rintro ⟨response, hanswered, hlook⟩
          have hlook' : (Client.readAnswer Secret.decode response).isSome = true := hlook
          rw [hnone response hanswered] at hlook'
          cases hlook'

/-- The turn in which the server accepts the write. -/
theorem accept {response answer : Response} {request : Request}
    (hown : Session.servedOver own
      = [⟨store.cluster, readRequest ns d.name, .answered response⟩])
    (hfollows : Follows ns d details response request) (hactive : Uncancelled ctx own)
    (hctx : ctx.isCancelled s = false)
    (hfate : (s.exchange store.cluster request).1 = .answered answer)
    (hstored : (answer.object? Secret.decode).isSome = true) (remarks lines : List LogLine) :
    Stage store ctx ns d details
      (own ++ [(s, ((s.exchange store.cluster request).2.log remarks).log lines)])
      (.done (.ok ()) (((s.exchange store.cluster request).2.log remarks).log lines)) := by
  have hturn := s.servedIn_exchange store.cluster request (remarks ++ lines)
  rw [hfate] at hturn
  rw [Session.log_log]
  refine .stored _ response answer request ?_ hfollows hstored (hactive.concat hctx ?_)
  · rw [Session.servedOver_concat, hown, hturn]
    rfl
  · -- the turn holds no read
    rw [hturn]
    rintro ⟨served, hserved, hget⟩
    rw [List.mem_singleton.1 hserved] at hget
    exact absurd hget hfollows.method_ne_get

/-- The turn in which the server takes the write. -/
theorem write {response : Response} {request : Request} {f : Failure} {before : String}
    (hown : Session.servedOver own
      = [⟨store.cluster, readRequest ns d.name, .answered response⟩])
    (hfollows : Follows ns d details response request) (hactive : Uncancelled ctx own)
    (hp : driven ctx store.cluster request f Secret.decode (·.object? Secret.decode)
      (ended ns before d.name) s = p) :
    Stage store ctx ns d details (own ++ [(s, p.state)]) p := by
  cases hctx : ctx.isCancelled s with
  | true =>
      rw [driven_of_cancelled hctx] at hp
      subst hp
      exact cancel (hown ▸ .read _) hctx
  | false =>
      rcases driven_of_active hctx store.cluster request f Secret.decode
        (·.object? Secret.decode) (ended ns before d.name)
        with ⟨answer, stored, hfate, hlook, hdriven⟩ | ⟨hnone, hend⟩
      · rw [hdriven, ended] at hp
        subst hp
        exact accept hown hfollows hactive hctx hfate (hlook ▸ rfl) _ _
      · rw [hp] at hend
        refine refuse ?_ ?_ hend
        · rw [hown]
          exact .written response request _ hfollows
        · rw [hfollows.granted_iff]
          rintro ⟨answer, hanswered, hlook⟩
          rw [hnone answer hanswered] at hlook
          cases hlook

end Stage

/-- **One turn of a write** brings it to its next stage. -/
theorem stage_turn (hns : isName ns = true) (hname : isName d.name = true)
    {p p' : Progress Session (Except Failure Unit)} {s : Session}
    (hstage : Stage store ctx ns d details own p) (hresumes : p.resume? s = some p') :
    Stage store ctx ns d details (own ++ [(s, p'.state)]) p' := by
  cases hstage with
  | reading start left hown hserved hactive =>
      cases hresumes
      exact .read hns hname hserved hactive rfl
  | writing left response request f before hown hfollows hactive =>
      cases hresumes
      exact .write hown hfollows hactive rfl
  | unanswered left hown hfailed =>
      -- it is resumed only by a cancellation, and then it takes no more requests
      simp only [Progress.resume?, Option.ite_none_right_eq_some, Option.some.injEq] at hresumes
      obtain ⟨-, rfl⟩ := hresumes
      have hserved : Session.servedOver (own ++ [(s, s)]) = Session.servedOver own := by
        rw [Session.servedOver_concat, Session.servedIn_self, List.append_nil]
      exact .failed _ s (hserved.symm ▸ hown) (hserved.symm ▸ hfailed)
  | failed f left hown hfailed => cases hresumes
  | cancelled left hown hcancelled => cases hresumes
  | same left response found hown hfound hsame hactive => cases hresumes
  | stored left response answer request hown hfollows hstored hactive => cases hresumes

/-- Where a write can be, whatever has happened since it was started. -/
theorem stage_of_reaches {owner : Owner} (hdestination : owner.destination = some d)
    (hns : isName (store.namespaceOf owner) = true) (hname : isName d.name = true) {s : Session}
    {changes : List (Session × Session)} {now : Progress Session (Except Failure Unit)}
    (hreaches : (store.toStore.write ctx owner details s).Reaches changes now) :
    Stage store ctx (store.namespaceOf owner) d details (Progress.turns s changes now.state)
      now := by
  have hnone : Course store.cluster (store.namespaceOf owner) d details
      (Session.servedOver []) := .unsent
  have hstart : Stage store ctx (store.namespaceOf owner) d details
      ([] ++ [(s, (store.toStore.write ctx owner details s).state)])
      (store.toStore.write ctx owner details s) := by
    cases hctx : ctx.isCancelled s with
    | true =>
        rw [write_of_isCancelled hdestination hctx]
        exact .cancel hnone hctx
    | false =>
        rw [write_of_active hdestination hns hname hctx]
        have hserved : Session.servedIn (s, s.log [Queue.entered]) = [] := s.servedIn_log _
        refine .reading s _ rfl ?_ (Uncancelled.nil.concat hctx ?_)
        · rw [Session.servedOver_concat]
          exact hserved
        · rintro ⟨served, hmem, -⟩
          rw [Progress.state, hserved] at hmem
          cases hmem
  -- the turns of the run are added to the one in which the write was started
  have hrun := hreaches.keeps (Stage store ctx (store.namespaceOf owner) d details)
    (fun own p found p' hstage hresumes => stage_turn hns hname hstage hresumes) hstart
  rwa [List.nil_append] at hrun

/-! ## §5. What a write comes to. -/

namespace Stage

variable {now : Progress Session (Except Failure Unit)}

theorem course (h : Stage store ctx ns d details own now) :
    Course store.cluster ns d details (Session.servedOver own) := by
  cases h with
  | reading start left hown hserved hactive => exact hserved ▸ .unsent
  | writing left response request f before hown hfollows hactive => exact hown ▸ .read _
  | unanswered left hown hfailed => exact hown
  | failed f left hown hfailed => exact hown
  | cancelled left hown hcancelled => exact hown
  | same left response found hown hfound hsame hactive => exact hown ▸ .read _
  | stored left response answer request hown hfollows hstored hactive =>
      exact hown ▸ .written response request _ hfollows

/-- A write that is neither cancelled nor waits for its first resumption has sent something. -/
theorem started (h : Stage store ctx ns d details own now)
    (hserved : Session.servedOver own = []) :
    (∃ start left, own = [(start, left)]) ∨ ¬ Uncancelled ctx own := by
  cases h with
  | reading start left hown _ hactive => exact .inl ⟨start, left, hown⟩
  | writing left response request f before hown hfollows hactive => simp [hserved] at hown
  | unanswered left hown hfailed => simp [hserved] at hfailed
  | failed f left hown hfailed => simp [hserved] at hfailed
  | cancelled left hown hcancelled => exact .inr hcancelled
  | same left response found hown hfound hsame hactive => simp [hserved] at hown
  | stored left response answer request hown hfollows hstored hactive => simp [hserved] at hown

/-- A write that has ended has succeeded if it was not cancelled and no request failed. -/
theorem ok_iff (h : Stage store ctx ns d details own now) {result : Except Failure Unit}
    {stop : Session} (hdone : now = .done result stop) :
    result = .ok () ↔ Uncancelled ctx own ∧ ∀ served ∈ Session.servedOver own, served.Granted := by
  subst hdone
  cases h with
  | failed f left hown hfailed =>
      obtain ⟨served, hmem, hrefused⟩ := hfailed
      exact ⟨nofun, fun hall => absurd (hall.2 served hmem) hrefused⟩
  | cancelled left hown hcancelled => exact ⟨nofun, fun hall => absurd hall.1 hcancelled⟩
  | same left response found hown hfound hsame hactive =>
      refine ⟨fun _ => ⟨hactive, ?_⟩, fun _ => rfl⟩
      rw [hown]
      exact List.forall_mem_singleton.2 ⟨response, rfl, Client.readAnswer_of_object hfound⟩
  | stored left response answer request hown hfollows hstored hactive =>
      refine ⟨fun _ => ⟨hactive, ?_⟩, fun _ => rfl⟩
      rw [hown]
      exact List.forall_mem_cons.2 ⟨⟨response, rfl, hfollows.understood⟩,
        List.forall_mem_singleton.2 (hfollows.granted_iff.2 ⟨answer, rfl, hstored⟩)⟩

end Stage

/-- **A write is a read and at most one more request.**  However far a write has come, with
whatever the server answers and others do: it has sent the read of its secret, unless it was
cancelled before that or was only just started; after the read it has sent at most one more
request, to create the secret if the server says that there is none, and to replace it by
what was read, with only its own put in, if the server answers with a secret.  When it ends
it succeeds exactly if it was not cancelled and none of its requests failed. -/
theorem course_of_write {owner : Owner} (hdestination : owner.destination = some d)
    (hns : isName (store.namespaceOf owner) = true) (hname : isName d.name = true) {s : Session}
    {changes : List (Session × Session)} {now : Progress Session (Except Failure Unit)}
    (hreaches : (store.toStore.write ctx owner details s).Reaches changes now) :
    let turns := Progress.turns s changes now.state
    Course store.cluster (store.namespaceOf owner) d details (Session.servedOver turns)
      ∧ (Session.servedOver turns = [] → changes = [] ∨ ¬ Uncancelled ctx turns)
      ∧ (∀ found, Overlaid found d details (found.apply d details))
      ∧ ∀ result stop, now = .done result stop →
          (result = .ok () ↔ Uncancelled ctx turns
            ∧ ∀ served ∈ Session.servedOver turns, served.Granted) := by
  have hstage := stage_of_reaches hdestination hns hname hreaches
  refine ⟨hstage.course, fun hserved => ?_, fun found => overlaid_apply found d details,
    fun result stop hdone => ?_⟩
  · -- a write that was only started has had one turn, so nothing has changed yet
    refine (hstage.started hserved).imp_left ?_
    rintro ⟨start, left, hturns⟩
    cases changes with
    | nil => rfl
    | cons change rest =>
        cases rest with
        | nil => simp [Progress.turns] at hturns
        | cons change' rest => simp [Progress.turns] at hturns
  · exact hstage.ok_iff hdone

namespace Sample

/-- A secret that others look after too. -/
def kept : Json :=
  .record
    [("apiVersion", some (.str "v1")), ("data", some (.record [("user", some (.str "YWRtaW4="))])),
     ("kind", some (.str "Secret")),
     ("metadata", some (.record
       [("finalizers", some (.arr [.str "example.org/keep"])), ("name", some (.str "conn")),
        ("namespace", some (.str "team-a")), ("resourceVersion", some (.str "7"))]))]

/-- A session in which the secret is in the cluster. -/
def keptSession : Session :=
  { servers := Dict.ofList
      [("east", { objects := Dict.ofList [("/api/v1/namespaces/team-a/secrets/conn", kept)] })] }

/-- The destination of the secret. -/
def labelled : Destination :=
  { name := "conn", metadata := some { labels := some (Dict.ofList [("env", "prod")]) } }

/-- A store in the cluster. -/
def east : ClusterStore := { cluster := "east" }

/-- The owner of the secret. -/
def database : Owner := ⟨"database", some "team-a", some labelled⟩

/-- A password. -/
def password : Details := Dict.ofList [("password", [1, 2])]

/-- A write of the password. -/
def writing : Progress Session (Except Failure Unit) :=
  east.toStore.write ⟨[0]⟩ database password keptSession

/-- The states that the write leaves, in which it is resumed. -/
def pauses : List (Session × Session) :=
  [(writing.state, writing.state), (writing.resumed.state, writing.resumed.state)]

/-- The turns of the write. -/
def turns : List (Session × Session) :=
  Progress.turns keptSession pauses writing.resumed.resumed.state

theorem reaches_writing : writing.Reaches pauses writing.resumed.resumed :=
  .turn (Progress.resume?_state (by decide +kernel))
    (.turn (Progress.resume?_state (by decide +kernel)) (.here _))

theorem stage_writing : Stage east ⟨[0]⟩ "team-a" labelled password turns
    writing.resumed.resumed := by
  have hdestination : database.destination = some labelled := rfl
  exact stage_of_reaches hdestination (by decide) (by decide) reaches_writing

theorem methods_writing :
    (Session.servedOver turns).map (·.request.method) = [.get, .put] := by
  decide +kernel

theorem writing_done : ∃ stop, writing.resumed.resumed = .done (.ok ()) stop := by
  have hsucceeded : writing.resumed.resumed.succeeded = true := by decide +kernel
  obtain ⟨_, stop, hdone⟩ := Progress.succeeded_iff.1 hsucceeded
  exact ⟨stop, hdone⟩

end Sample

open ClusterStore.Sample in
/-- The write reads the secret and replaces it, and none of its requests fails. -/
theorem course_of_writing :
    (Session.servedOver turns).map (·.request.method) = [.get, .put]
      ∧ Course "east" "team-a" labelled password (Session.servedOver turns)
      ∧ ∀ served ∈ Session.servedOver turns, served.Granted := by
  obtain ⟨stop, hdone⟩ := writing_done
  have hwrite : _ ∧ _ :=
    @course_of_write east ⟨[0]⟩ labelled password database rfl (by decide) (by decide) _ _ _
      reaches_writing
  obtain ⟨hcourse, -, -, hok⟩ := hwrite
  exact ⟨methods_writing, hcourse, ((hok _ stop hdone).1 rfl).2⟩

end ClusterStore

end ConnectionRelay
