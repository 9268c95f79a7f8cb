/-
  ConnectionRelay.Session
  ───────────────────────
  **WHAT OUTLASTS AN OPERATION.**

  The operations of the relay work on a session: the tokens that have fired, the
  secrets of the in-memory stores, the API servers, the counters, and the journal.
-/
import ConnectionRelay.Cluster.ApiServer
import ConnectionRelay.Cluster.Queue
import ConnectionRelay.Context
import ConnectionRelay.Details

namespace ConnectionRelay

/-- What outlasts an operation. -/
structure Session where
  /-- The tokens that have fired. -/
  fired : List Token := []
  /-- The next token that is not in use. -/
  nextToken : Token := 0
  /-- The contexts that have a name. -/
  contexts : Dict Context := .empty
  /-- The secrets of the in-memory stores, by their numbers. -/
  secrets : List (Dict Details) := []
  servers : Dict Cluster.ApiServer := .empty
  /-- Have the queues of the clusters begun to wait for requests? -/
  queuesWait : Bool := false
  counters : Counters := {}
  journal : List Event := []

namespace Session

instance : HasTokens Session := ⟨Session.fired⟩

/-! ## §1. Contexts. -/

/-- The context of a name; a name that is not in use stands for none. -/
def context? (s : Session) (name : String) : Option Context := s.contexts.get? name

/-- Give a context a name. -/
def nameContext (s : Session) (name : String) (ctx : Context) : Session :=
  { s with contexts := s.contexts.insert name ctx }

/-- Take a token that is not in use. -/
def freshToken (s : Session) : Token × Session :=
  (s.nextToken, { s with nextToken := s.nextToken + 1 })

/-- Let a token fire. -/
def fire (s : Session) (token : Token) : Session := { s with fired := token :: s.fired }

/-- Cancel a context. -/
def cancel (s : Session) (ctx : Context) : Session :=
  match ctx.token? with
  | some token => s.fire token
  | none => s

/-- Cancel the context of a name. -/
def cancelNamed (s : Session) (name : Option String) : Session :=
  match name.bind s.context? with
  | some ctx => s.cancel ctx
  | none => s

/-! ## §2. Stores and servers. -/

/-- The secrets of an in-memory store. -/
def secretsOf (s : Session) (store : Nat) : Dict Details := s.secrets.getD store .empty

/-- Replace the secrets of an in-memory store. -/
def setSecrets (s : Session) (store : Nat) (secrets : Dict Details) : Session :=
  { s with secrets := s.secrets.set store secrets }

/-- Make an in-memory store without secrets; its number. -/
def freshStore (s : Session) : Nat × Session :=
  (s.secrets.length, { s with secrets := s.secrets ++ [.empty] })

/-- The API server of a cluster. -/
def serverOf (s : Session) (cluster : String) : Cluster.ApiServer :=
  (s.servers.get? cluster).getD {}

/-- Replace the API server of a cluster. -/
def setServer (s : Session) (cluster : String) (server : Cluster.ApiServer) : Session :=
  { s with servers := s.servers.insert cluster server }

/-! ## §3. The journal. -/

/-- Write an event down. -/
def note (s : Session) (e : Event) : Session := { s with journal := s.journal ++ [e] }

/-- Write log lines down. -/
def log (s : Session) (lines : List LogLine) : Session :=
  { s with journal := s.journal ++ lines.map .logged }

/-- Let the queues take what was sent, a request to this cluster. -/
def serveQueues (s : Session) (cluster : String) : Session :=
  { s.log (Cluster.Queue.turn s.servers.keys s.queuesWait cluster) with queuesWait := true }

/-- How often a script was called. -/
def callsOf (s : Session) (script : Nat) : Nat := s.journal.countP (·.isCallOf script)

/-- Add to a counter. -/
def count (s : Session) (m : Metric) (n : Nat) : Session :=
  { s with counters := s.counters.add m (UInt64.ofNat n) }

end Session

/-! ## §4. Steps of an operation. -/

/-- An operation of the relay. -/
abbrev Operation (α : Type) := Task Session α

namespace Operation

/-- Log a line. -/
def log (level : Level) (origin : Origin) (message : String) : Operation Unit :=
  Task.modify fun s => s.note (.logged { level, origin, message })

/-- Add to a counter. -/
def count (m : Metric) (n : Nat) : Operation Unit := Task.modify fun s => s.count m n

/-- Send a request to a cluster; `none` stands for a broken connection.  The request
waits in a queue, and the operation is suspended, until the server takes it; the server
then answers at once, or never. -/
def send (cluster : String) (request : Cluster.Request) :
    Operation (Option Cluster.Response) := do
  Task.modify fun s => s.log [Cluster.Queue.entered]
  Task.pause
  Task.modify fun s => s.serveQueues cluster
  let request := request.arrived
  let s ← Task.get
  let server := s.serverOf cluster
  let rule := server.nextRule
  Task.modify fun s =>
    ((s.note (.requested cluster request)).setServer cluster server.take).cancelNamed rule.cancel
  if rule.hang then Task.hang
  else if rule.fail then pure none
  else do
    let s ← Task.get
    let (response, server) := (s.serverOf cluster).respond rule request
    Task.modify fun s => s.setServer cluster server
    pure (some response)

end Operation

end ConnectionRelay
