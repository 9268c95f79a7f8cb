/-
  ConnectionRelay.Proofs.Store.SharedSecret
  ─────────────────────────────────────────
  **A SECRET WITH SEVERAL WRITERS.**

  What turns of different tasks do to one secret of a cluster, and what they leave alone.
  In a turn the server takes no request, takes one and keeps the object, or takes a write
  and stores it (`Effect`).  A writer holds a copy of the secret between its read and its
  write; the copy is tied to a version that the server will not give again (`Copies`).
  Main statements:

    • `Copies.later` — a copy stays one, whatever the other tasks do,
    • `Effect.dataAt_eq` — a turn overwrites the data with the details of the task if the
      server accepts a write in it, and else keeps them.
-/
import ConnectionRelay.Proofs.Cluster.FairServer
import ConnectionRelay.Proofs.Cluster.StoredSecret
import ConnectionRelay.Proofs.Cluster.Target
import ConnectionRelay.Proofs.Task.Interleaving

namespace ConnectionRelay

open Cluster

/-! ## §1. The secret and the history. -/

/-- Where a secret lies. -/
structure Address where
  cluster : String
  ns : String
  name : String
  deriving DecidableEq

/-- The path of the secret at its server. -/
def Address.place (a : Address) : String := Secret.place a.ns a.name

namespace Session

/-- The object at an address. -/
def objectAt (s : Session) (a : Address) : Option Json :=
  (s.serverOf a.cluster).objects.get? a.place

/-- The data of the secret at an address, if it is there. -/
def dataAt (s : Session) (a : Address) : Option Details := (s.objectAt a).map Secret.dataOf

/-- The secret at an address has these details, among others. -/
def Holds (s : Session) (a : Address) (details : Details) : Prop :=
  ∃ data, s.dataAt a = some data ∧ ∀ k v, details.get? k = some v → data.get? k = some v

end Session

namespace Turn

variable {ι : Type}

/-- The requests that the server of a cluster took in a turn. -/
def requests (cluster : String) (t : Turn ι Session) : List Request :=
  t.after.requestsSince t.before cluster

/-- The methods of these requests. -/
def methods (cluster : String) (t : Turn ι Session) : List Method :=
  (t.requests cluster).map Request.method

/-- Did the server of a cluster accept a write in a turn?  Then it has given a version. -/
def accepted (cluster : String) (t : Turn ι Session) : Bool :=
  decide ((t.before.serverOf cluster).nextVersion < (t.after.serverOf cluster).nextVersion)

theorem methods_eq {cluster : String} {t : Turn ι Session} {events : List Event}
    (h : t.after.journal = t.before.journal ++ events) :
    t.methods cluster = (events.filterMap (Event.request? cluster)).map Request.method := by
  unfold methods requests Session.requestsSince
  rw [h, List.drop_left]

end Turn

/-- The methods of all requests of some turns, in order. -/
def methodsOf {ι : Type} (cluster : String) (turns : List (Turn ι Session)) : List Method :=
  turns.flatMap (Turn.methods cluster)

/-! ## §2. What one turn does. -/

variable {ι : Type} {a : Address} {details : Details}

/-- What a turn does to the secret at an address, and the methods of its requests. -/
inductive Effect (a : Address) (details : Details) (s s' : Session) : List Method → Prop where
  /-- The server takes no request. -/
  | idle (events : List Event) (hjournal : s'.journal = s.journal ++ events)
      (hnone : events.filterMap (Event.request? a.cluster) = [])
      (hserver : s'.serverOf a.cluster = s.serverOf a.cluster) : Effect a details s s' []
  /-- The server takes a request, and keeps the object. -/
  | kept (events : List Event) (r : Request) (hjournal : s'.journal = s.journal ++ events)
      (hone : events.filterMap (Event.request? a.cluster) = [r])
      (hkeeps : (s.serverOf a.cluster).Keeps (s'.serverOf a.cluster) a.place) :
      Effect a details s s' [r.method]
  /-- The server takes a write that puts details in, and stores it. -/
  | stored (events : List Event) (r : Request) (secret : Secret)
      (hjournal : s'.journal = s.journal ++ events)
      (hone : events.filterMap (Event.request? a.cluster) = [r]) (hwrite : r.method ≠ .get)
      (hdetails : ((s.dataAt a).getD .empty).merge details = secret.details)
      (hstores : (s.serverOf a.cluster).Stores (s'.serverOf a.cluster) a.place secret.toJson.sent) :
      Effect a details s s' [r.method]

namespace Effect

variable {s s' : Session} {methods : List Method}

theorem methods_eq (h : Effect a details s s' methods) (i : ι) :
    (Turn.mk i s s').methods a.cluster = methods := by
  cases h with
  | idle events hjournal hnone => rw [Turn.methods_eq hjournal, hnone]; rfl
  | kept events r hjournal hone => rw [Turn.methods_eq hjournal, hone]; rfl
  | stored events r secret hjournal hone => rw [Turn.methods_eq hjournal, hone]; rfl

theorem methodsOf_concat (h : Effect a details s s' methods) (i : ι)
    (own : List (Turn ι Session)) :
    methodsOf a.cluster (own ++ [⟨i, s, s'⟩]) = methodsOf a.cluster own ++ methods := by
  unfold methodsOf
  rw [List.flatMap_append, List.flatMap_singleton, h.methods_eq]

/-- Logging more changes nothing. -/
theorem log (h : Effect a details s s' methods) (lines : List LogLine) :
    Effect a details s (s'.log lines) methods := by
  have hmore : ∀ {events : List Event}, s'.journal = s.journal ++ events →
      (s'.log lines).journal = s.journal ++ (events ++ lines.map .logged) := by
    intro events he
    rw [← List.append_assoc, ← he]
    rfl
  cases h with
  | idle events hjournal hnone hserver =>
      refine .idle _ (hmore hjournal) ?_ hserver
      rw [List.filterMap_append, hnone, Event.filterMap_request?_logged, List.append_nil]
  | kept events r hjournal hone hkeeps =>
      refine .kept _ r (hmore hjournal) ?_ hkeeps
      rw [List.filterMap_append, hone, Event.filterMap_request?_logged, List.append_nil]
  | stored events r secret hjournal hone hwrite hdetails hstores =>
      refine .stored _ r secret (hmore hjournal) ?_ hwrite hdetails hstores
      rw [List.filterMap_append, hone, Event.filterMap_request?_logged, List.append_nil]

/-- Giving up before the server takes the request changes nothing. -/
theorem refl (s : Session) : Effect a details s s [] :=
  .idle [] (List.append_nil _).symm rfl rfl

/-- One exchange keeps the object if the server fails the request or reads. -/
theorem of_keeps {request : Request}
    (h : (s.serverOf a.cluster).Keeps ((s.serverOf a.cluster).handle request.arrived).2 a.place) :
    Effect a details s (s.exchange a.cluster request).2 [request.method] := by
  refine .kept _ request.arrived
    ((s.journal_exchange a.cluster request).trans (List.append_assoc ..)) ?_ ?_
  · rw [List.filterMap_append, Event.filterMap_request?_logged]
    simp [Event.request?]
  · rw [s.serverOf_exchange]
    exact h

/-- One exchange stores the object if the server accepts a write. -/
theorem of_stores {request : Request} {secret : Secret} (hwrite : request.method ≠ .get)
    (hdetails : ((s.dataAt a).getD .empty).merge details = secret.details)
    (h : (s.serverOf a.cluster).Stores ((s.serverOf a.cluster).handle request.arrived).2 a.place
      secret.toJson.sent) :
    Effect a details s (s.exchange a.cluster request).2 [request.method] := by
  refine .stored _ request.arrived secret
    ((s.journal_exchange a.cluster request).trans (List.append_assoc ..)) ?_ hwrite hdetails ?_
  · rw [List.filterMap_append, Event.filterMap_request?_logged]
    simp [Event.request?]
  · rw [s.serverOf_exchange]
    exact h

end Effect

/-! ## §3. What every turn keeps. -/

/-- A later session: versions that were spent still are, and the object is the same, or
has a version that was not spent. -/
structure Later (a : Address) (s s' : Session) : Prop where
  spent : ∀ version, (s.serverOf a.cluster).Spent version →
    (s'.serverOf a.cluster).Spent version
  object : s'.objectAt a = s.objectAt a
    ∨ ∃ object version, s'.objectAt a = some object
        ∧ ApiServer.versionOf object = .str version ∧ ¬ (s.serverOf a.cluster).Spent version

/-- A secret is a copy of the object at one version: the version is spent, and if the
object still has it, the secret has the data of the object. -/
def Copies (a : Address) (s : Session) (secret : Secret) : Prop :=
  ∃ version, secret.metadata.resourceVersion = some version
    ∧ (s.serverOf a.cluster).Spent version
    ∧ ∀ object, s.objectAt a = some object → ApiServer.versionOf object = .str version →
        Secret.dataOf object = secret.details

/-- A copy stays one, whatever others do. -/
theorem Copies.later {s s' : Session} {secret : Secret} (h : Copies a s secret)
    (hlater : Later a s s') : Copies a s' secret := by
  obtain ⟨version, hversion, hspent, hdata⟩ := h
  refine ⟨version, hversion, hlater.spent _ hspent, fun object hobject hof => ?_⟩
  rcases hlater.object with hsame | ⟨object', version', hobject', hof', hfresh⟩
  · exact hdata object (hsame ▸ hobject) hof
  · -- an object stored since then has another version
    rw [hobject'] at hobject
    cases hobject
    rw [hof'] at hof
    cases hof
    exact absurd hspent hfresh

/-- The object at an address is one that a server keeps. -/
structure Sound (a : Address) (s : Session) : Prop where
  fair : (s.serverOf a.cluster).Fair a.place
  object : ∀ object, s.objectAt a = some object → IsKeyed object
    ∧ ∃ version, ApiServer.versionOf object = .str version
        ∧ (s.serverOf a.cluster).Spent version

/-- What an object shows that was stored out of a secret. -/
theorem shown_of_stores {s s' : Session} {secret : Secret}
    (h : (s.serverOf a.cluster).Stores (s'.serverOf a.cluster) a.place secret.toJson.sent)
    {object : Json} (hobject : s'.objectAt a = some object) :
    IsKeyed object ∧ Secret.dataOf object = secret.details
      ∧ ApiServer.versionOf object
        = .str ((s.serverOf a.cluster).versionText (s.serverOf a.cluster).nextVersion) := by
  have hstored := h.object
  rw [Secret.withVersion_toJson] at hstored
  have heq := hobject.symm.trans hstored
  cases heq
  refine ⟨isKeyed_toJson _, ?_, ?_⟩
  · rw [Secret.dataOf_toJson]
    rfl
  · rw [Secret.versionOf_toJson]
    rfl

/-- Storing the data, overwritten with details, puts the details there. -/
theorem holds_of_stores {s s' : Session} {secret : Secret}
    (hdetails : ((s.dataAt a).getD .empty).merge details = secret.details)
    (h : (s.serverOf a.cluster).Stores (s'.serverOf a.cluster) a.place secret.toJson.sent) :
    s'.Holds a details := by
  have hobject : s'.objectAt a = some _ := h.object
  obtain ⟨-, hdata, -⟩ := shown_of_stores h hobject
  refine ⟨secret.details, ?_, fun k v hk => ?_⟩
  · rw [Session.dataAt, hobject, Option.map_some, hdata]
  · rw [← hdetails, Dict.get?_merge, hk]
    rfl

/-- The server accepts a write in a turn in which it stores an object. -/
theorem accepted_of_stores {s s' : Session} {body : Json} (i : ι)
    (h : (s.serverOf a.cluster).Stores (s'.serverOf a.cluster) a.place body) :
    (Turn.mk i s s').accepted a.cluster = true := by
  have hnext := h.nextVersion
  simp only [Turn.accepted, decide_eq_true_eq]
  omega

namespace Effect

variable {s s' : Session} {methods : List Method}

theorem server_cases (h : Effect a details s s' methods) :
    (s.serverOf a.cluster).Keeps (s'.serverOf a.cluster) a.place
      ∨ ∃ secret : Secret, ((s.dataAt a).getD .empty).merge details = secret.details
          ∧ (s.serverOf a.cluster).Stores (s'.serverOf a.cluster) a.place secret.toJson.sent := by
  cases h with
  | idle events hjournal hnone hserver => exact .inl (hserver ▸ .refl _ _)
  | kept events r hjournal hone hkeeps => exact .inl hkeeps
  | stored events r secret hjournal hone hwrite hdetails hstores =>
      exact .inr ⟨secret, hdetails, hstores⟩

theorem sound (h : Effect a details s s' methods) (hsound : Sound a s) : Sound a s' := by
  rcases h.server_cases with hkeeps | ⟨secret, -, hstores⟩
  · -- the object is the old one, and its version stays spent
    have hsame : s'.objectAt a = s.objectAt a := hkeeps.object
    refine ⟨hkeeps.fair hsound.fair, fun object hobject => ?_⟩
    obtain ⟨hkeyed, version, hversion, hspent⟩ := hsound.object object (hsame ▸ hobject)
    exact ⟨hkeyed, version, hversion, hspent.keeps hkeeps⟩
  · -- the object is a written secret, and storing it has spent its version
    refine ⟨hstores.fair hsound.fair, fun object hobject => ?_⟩
    obtain ⟨hkeyed, -, hversion⟩ := shown_of_stores hstores hobject
    exact ⟨hkeyed, _, hversion, hstores.spent hsound.fair⟩

theorem later (h : Effect a details s s' methods) : Later a s s' := by
  rcases h.server_cases with hkeeps | ⟨secret, -, hstores⟩
  · exact ⟨fun version hspent => hspent.keeps hkeeps, .inl hkeeps.object⟩
  · have hle : (s.serverOf a.cluster).nextVersion ≤ (s'.serverOf a.cluster).nextVersion := by
      rw [hstores.nextVersion]; omega
    -- the version of the new object is the next one, which no copy can have
    refine ⟨fun version hspent => hspent.mono hstores.versionText hle, .inr ?_⟩
    have hobject : s'.objectAt a = some _ := hstores.object
    obtain ⟨-, -, hversion⟩ := shown_of_stores hstores hobject
    exact ⟨_, _, hobject, hversion, ApiServer.not_spent_next _⟩

/-- A turn overwrites the data if the server accepts a write in it, and else keeps them. -/
theorem dataAt_eq (h : Effect a details s s' methods) (i : ι) :
    s'.dataAt a = if (Turn.mk i s s').accepted a.cluster then overwrite (s.dataAt a) details
      else s.dataAt a := by
  -- the number of the next version tells whether something was stored
  rcases h.server_cases with hkeeps | ⟨secret, hdetails, hstores⟩
  · have hnot : (Turn.mk i s s').accepted a.cluster = false := by
      simp [Turn.accepted, hkeeps.nextVersion]
    have hsame : s'.objectAt a = s.objectAt a := hkeeps.object
    rw [hnot, Session.dataAt, hsame, Session.dataAt, if_neg Bool.false_ne_true]
  · have hobject : s'.objectAt a = some _ := hstores.object
    obtain ⟨-, hdata, -⟩ := shown_of_stores hstores hobject
    rw [accepted_of_stores i hstores, if_pos rfl, overwrite, hdetails, Session.dataAt, hobject,
      Option.map_some, hdata]

/-- A read leaves the data as they are. -/
theorem dataAt_of_get (h : Effect a details s s' [.get]) : s'.dataAt a = s.dataAt a := by
  generalize hmethods : [Method.get] = methods at h
  cases h with
  | idle events hjournal hnone hserver => cases hmethods
  | kept events r hjournal hone hkeeps =>
      have hsame : s'.objectAt a = s.objectAt a := hkeeps.object
      rw [Session.dataAt, hsame, Session.dataAt]
  | stored events r secret hjournal hone hwrite hdetails hstores =>
      exact absurd (List.cons.inj hmethods).1.symm hwrite

/-- The server accepts a write only when it is asked to write. -/
theorem methods_of_accepted (h : Effect a details s s' methods) (i : ι)
    (haccepted : (Turn.mk i s s').accepted a.cluster = true) :
    methods = [.post] ∨ methods = [.put] := by
  simp only [Turn.accepted, decide_eq_true_eq] at haccepted
  cases h with
  | idle events hjournal hnone hserver =>
      rw [hserver] at haccepted
      omega
  | kept events r hjournal hone hkeeps =>
      rw [hkeeps.nextVersion] at haccepted
      omega
  | stored events r secret hjournal hone hwrite hdetails hstores =>
      cases hr : r.method with
      | get => exact absurd hr hwrite
      | post => exact .inl rfl
      | put => exact .inr rfl

end Effect

end ConnectionRelay
