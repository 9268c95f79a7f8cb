/-
  ConnectionRelay.Proofs.Store.ClusterWrite
  ─────────────────────────────────────────
  **A WRITE TO A CLUSTER, REQUEST BY REQUEST.**

  A write is suspended at each of its requests.  Cut there it falls into three steps:
  `whenRead` goes on when the server takes the read, and `whenCreated` or `whenReplaced`
  when it takes the write that may follow.  Main statements:

    • `write_of_active`, `writeBack_none`, `writeBack_some` — a write is these steps, for
      a secret of a valid name,
    • `comes_driven` — each step ends the write, or goes on with an answer.
-/
import ConnectionRelay.Proofs.Cluster.Exchange
import ConnectionRelay.Proofs.Cluster.Target

namespace ConnectionRelay

open Cluster

namespace ClusterStore

variable {α β : Type}

/-! ## §1. The three requests. -/

/-- The request that reads a secret. -/
def readRequest (ns name : String) : Request := ⟨.get, ⟨Secret.place ns name, none⟩, none⟩

/-- The request that creates a secret. -/
def createRequest (ns : String) (secret : Secret) : Request :=
  ⟨.post, ⟨Secret.path ns, some Client.managerQuery⟩, some secret.toJson⟩

/-- The request that replaces a secret. -/
def replaceRequest (ns name : String) (secret : Secret) : Request :=
  ⟨.put, ⟨Secret.place ns name, some Client.managerQuery⟩, some secret.toJson⟩

/-! ## §2. One request within an operation. -/

/-- Pass a failure on, and go on with a value. -/
def passOn (next : β → Session → Progress Session (Except Failure α)) :
    Except Failure β → Session → Progress Session (Except Failure α)
  | .error f, s => .done (.error f) s
  | .ok b, s => next b s

/-- What an operation does when the server takes its request, with what follows. -/
def driven (ctx : Context) (cluster : String) (request : Request) (f : Failure)
    (decoder : Wire.Decoder β) {γ : Type} (look : Response → Option γ)
    (next : γ → Session → Progress Session (Except Failure α)) :
    Session → Progress Session (Except Failure α) := fun s =>
  if ctx.isCancelled s then .done (.error (.relay .cancelled)) s
  else (settle ctx f decoder look (s.exchange cluster request)).bind (passOn next)

/-- The ways a request comes out. -/
inductive Comes (ctx : Context) (cluster : String) (request : Request)
    (look : Response → Option β) (next : β → Session → Progress Session (Except Failure α))
    (s : Session) : Progress Session (Except Failure α) → Prop where
  /-- It is given up before the server takes it. -/
  | cancelled : Comes ctx cluster request look next s (.done (.error (.relay .cancelled)) s)
  /-- It fails. -/
  | failed (f : Failure) (lines : List LogLine) :
      Comes ctx cluster request look next s
        (.done (.error f) ((s.exchange cluster request).2.log lines))
  /-- It is not answered, and given up some time later. -/
  | unanswered :
      Comes ctx cluster request look next s
        (.waiting (s.exchange cluster request).2 ctx.isCancelled fun s =>
          .done (.error (.relay .cancelled)) s)
  /-- It is answered, and the operation goes on. -/
  | answered (r : Response) (b : β) (lines : List LogLine)
      (hfate : (s.exchange cluster request).1 = .answered r) (hlook : look r = some b) :
      Comes ctx cluster request look next s
        (next b ((s.exchange cluster request).2.log lines))

theorem comes_driven {γ : Type} (ctx : Context) (cluster : String) (request : Request)
    (f : Failure) (decoder : Wire.Decoder β) (look : Response → Option γ)
    (next : γ → Session → Progress Session (Except Failure α)) (s : Session) :
    Comes ctx cluster request look next s
      (driven ctx cluster request f decoder look next s) := by
  unfold driven
  -- a cancelled context comes before the fate of the request
  by_cases hctx : ctx.isCancelled s = true
  · rw [if_pos hctx]
    exact .cancelled
  · rw [if_neg hctx]
    rcases hexchange : s.exchange cluster request with ⟨fate, s'⟩
    have hstate : s' = (s.exchange cluster request).2 := by rw [hexchange]
    cases fate with
    | answered r =>
        cases hlook : look r with
        | none =>
            have hfailed : Comes ctx cluster request look next s
                (.done (.error f) ((s.exchange cluster request).2.log (r.remarks decoder))) :=
              .failed f _
            simpa [settle, Progress.bind, passOn, hlook, hexchange] using hfailed
        | some b =>
            have hanswered : Comes ctx cluster request look next s
                (next b ((s.exchange cluster request).2.log (r.remarks decoder))) :=
              .answered r b _ (by rw [hexchange]) hlook
            simpa [settle, Progress.bind, passOn, hlook, hexchange] using hanswered
    | broken =>
        have hfailed : Comes ctx cluster request look next s
            (.done (.error f) ((s.exchange cluster request).2.log [])) := .failed f _
        have hlog : s'.log [] = s' := by simp [Session.log]
        simpa [settle, Progress.bind, passOn, hexchange, hlog] using hfailed
    | unanswered =>
        subst hstate
        exact .unanswered

/-- A request within an operation is one pause. -/
theorem attempt_ask_bind {γ : Type} {ctx : Context} {s : Session}
    (h : ctx.isCancelled s = false) (cluster : String) (request : Request) (f : Failure)
    (decoder : Wire.Decoder β) (look : Response → Option γ)
    (next : γ → Session → Progress Session (Except Failure α)) :
    (attempt ctx f (Client.ask cluster (some request) decoder look) s).bind (passOn next)
      = .paused (s.log [Queue.entered]) (driven ctx cluster request f decoder look next) := by
  rw [attempt_ask cluster request h]
  simp only [Progress.bind]
  congr 1
  -- what is left to compare is what happens at the resumption, in whatever state it finds
  funext s'
  unfold driven
  by_cases hctx : ctx.isCancelled s' = true
  · rw [if_pos hctx, if_pos hctx]
    rfl
  · rw [if_neg hctx, if_neg hctx]

/-! ## §3. The steps of a write. -/

variable (store : ClusterStore) (ctx : Context) (ns : String) (d : Destination)
  (details : Details)

/-- The line that is logged after a write. -/
def writtenLine (level : Level) (before name after : String) : LogLine :=
  { level, origin := .clusterStore, message := before ++ " '" ++ ns ++ "/" ++ name ++ "'" ++ after }

/-- What a write does with what it has read. -/
def goOn (existing : Option Secret) : Session → Progress Session (Except Failure Unit) := fun s =>
  if ctx.isCancelled s then .done (.error (.relay .cancelled)) s
  else store.writeBack ctx ns d details existing s

/-- What a write does when the server takes the read. -/
def whenRead : Session → Progress Session (Except Failure Unit) :=
  driven ctx store.cluster (readRequest ns d.name) (failure "get" ns d.name) Secret.decode
    (Client.readAnswer Secret.decode) (store.goOn ctx ns d details)

/-- The end of a write that was accepted. -/
def ended (before name : String) {β : Type} (_ : β) :
    Session → Progress Session (Except Failure Unit) :=
  fun s => .done (.ok ()) (s.log [writtenLine ns .info before name ""])

/-- What a write does when the server takes the secret it creates. -/
def whenCreated (name : String) (secret : Secret) :
    Session → Progress Session (Except Failure Unit) :=
  driven ctx store.cluster (createRequest ns secret) (failure "create" ns name) Secret.decode
    (·.object? Secret.decode) (ended ns "Created connection secret" name)

/-- What a write does when the server takes the secret it replaces. -/
def whenReplaced (name : String) (secret : Secret) :
    Session → Progress Session (Except Failure Unit) :=
  driven ctx store.cluster (replaceRequest ns name secret) (failure "update" ns name)
    Secret.decode (·.object? Secret.decode) (ended ns "Updated connection secret" name)

/-! ## §4. A write is its steps. -/

variable {store ctx ns d details} {owner : Owner} {s : Session}

/-- A read for an owner with a destination is one request. -/
theorem read_eq (hdestination : owner.destination = some d) :
    store.toStore.read ctx owner s
      = (store.find ctx (store.namespaceOf owner) d.name s).bind
          (passOn fun found s => .done (.ok (found.map Secret.details)) s) := by
  simp only [toStore, hdestination, Task.bind_apply]
  congr 1
  funext found s'
  cases found <;> rfl

theorem create_eq (name : String) (secret : Secret) :
    store.create ctx ns name secret s
      = (attempt ctx (failure "create" ns name)
          (Client.create store.cluster (Secret.path ns) secret.toJson Secret.decode) s).bind
            (passOn (ended ns "Created connection secret" name)) := by
  rw [create, Task.bind_apply]
  congr 1
  funext created s'
  cases created <;> rfl

theorem replace_eq (name : String) (secret : Secret) :
    store.replace ctx ns name secret s
      = (attempt ctx (failure "update" ns name)
          (Client.replace store.cluster (Secret.path ns) name secret.toJson Secret.decode) s).bind
            (passOn (ended ns "Updated connection secret" name)) := by
  rw [replace, Task.bind_apply]
  congr 1
  funext replaced s'
  cases replaced <;> rfl

/-- A write for an owner with a destination is a read, and what is done with it. -/
theorem write_eq (hdestination : owner.destination = some d) :
    store.toStore.write ctx owner details s
      = (store.find ctx (store.namespaceOf owner) d.name s).bind
          (passOn (store.goOn ctx (store.namespaceOf owner) d details)) := by
  simp only [toStore, hdestination, Task.bind_apply]
  congr 1
  funext found s'
  cases found with
  | error f => rfl
  | ok existing =>
      show (ctx.ensureActive s').bind _ = goOn store ctx _ d details existing s'
      unfold goOn Context.ensureActive
      by_cases hctx : ctx.isCancelled s' = true
      · simp [hctx, Progress.bind]
      · simp [hctx, Progress.bind]

theorem write_of_isCancelled (hdestination : owner.destination = some d)
    (h : ctx.isCancelled s = true) :
    store.toStore.write ctx owner details s = .done (.error (.relay .cancelled)) s := by
  rw [write_eq hdestination, find, attempt_of_isCancelled h]
  rfl

theorem write_of_active (hdestination : owner.destination = some d)
    (hns : isName (store.namespaceOf owner) = true) (hname : isName d.name = true)
    (h : ctx.isCancelled s = false) :
    store.toStore.write ctx owner details s
      = .paused (s.log [Queue.entered])
          (whenRead store ctx (store.namespaceOf owner) d details) := by
  rw [write_eq hdestination, find, Client.read, Client.readRequest?_place hns hname]
  exact attempt_ask_bind h _ _ _ _ _ _

theorem writeBack_none (hns : isName ns = true) (h : ctx.isCancelled s = false) :
    store.writeBack ctx ns d details none s
      = .paused (s.log [Queue.entered])
          (whenCreated store ctx ns d.name ((Secret.ofName d.name ns).apply d details)) := by
  rw [writeBack, create_eq, Client.create, Client.createRequest?_path hns, whenCreated,
    createRequest, ← attempt_ask_bind h]

theorem writeBack_same {secret : Secret} (h : (secret.apply d details == secret) = true) :
    store.writeBack ctx ns d details (some secret) s
      = .done (.ok ()) (s.log
          [writtenLine ns .debug "Connection secret" d.name " already up to date"]) := by
  simp only [writeBack, h, if_true]
  rfl

theorem writeBack_some {secret : Secret} (hns : isName ns = true) (hname : isName d.name = true)
    (hchanged : (secret.apply d details == secret) = false) (h : ctx.isCancelled s = false) :
    store.writeBack ctx ns d details (some secret) s
      = .paused (s.log [Queue.entered])
          (whenReplaced store ctx ns d.name (secret.apply d details)) := by
  simp only [writeBack, hchanged]
  rw [if_neg Bool.false_ne_true, replace_eq, Client.replace,
    Client.replaceRequest?_place hns hname, whenReplaced, replaceRequest, ← attempt_ask_bind h]

end ClusterStore

end ConnectionRelay
