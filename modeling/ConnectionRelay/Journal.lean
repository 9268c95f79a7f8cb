/-
  ConnectionRelay.Journal
  ───────────────────────
  **WHAT AN OPERATION DID, IN ORDER.**

  While it works, an operation writes down what it logs, which requests it sends and
  which scripted collaborators it calls, and it adds to four counters.
-/
import ConnectionRelay.Cluster.Http

namespace ConnectionRelay

/-! ## §1. Log lines. -/

/-- How important a log line is. -/
inductive Level where
  | error
  | warn
  | info
  | debug
  | trace
  deriving DecidableEq, Repr

namespace Level

/-- The name of a level. -/
def name : Level → String
  | .error => "ERROR"
  | .warn => "WARN"
  | .info => "INFO"
  | .debug => "DEBUG"
  | .trace => "TRACE"

/-- How much is logged at a level: each one includes those before it. -/
def detail : Level → Nat
  | .error => 1
  | .warn => 2
  | .info => 3
  | .debug => 4
  | .trace => 5

end Level

/-- What logs a line: a part of the relay, or of what it uses to talk to clusters. -/
inductive Origin where
  | fetcher
  | publisher
  | configurator
  | clusterStore
  | updater
  /-- The client of a cluster. -/
  | client
  /-- The queue of a client, where requests enter it. -/
  | queueEntrance
  /-- The queue of a client, where requests are taken from it. -/
  | queueWorker
  deriving DecidableEq, Repr

namespace Origin

/-- The name under which a part logs. -/
def target : Origin → String
  | .fetcher => "composite_connection::connection::fetcher"
  | .publisher => "composite_connection::connection::publisher"
  | .configurator => "composite_connection::connection::configurator"
  | .clusterStore => "composite_connection::store::kubernetes"
  | .updater => "composite_connection::resource::updater"
  | .client => "kube_client::client"
  | .queueEntrance => "tower::buffer::service"
  | .queueWorker => "tower::buffer::worker"

/-- Is it a part of the relay itself? -/
def isOwn : Origin → Bool
  | .client => false
  | .queueEntrance => false
  | .queueWorker => false
  | _ => true

end Origin

/-- A log line. -/
structure LogLine where
  level : Level
  origin : Origin
  message : String
  /-- Truth values that stand beside the message. -/
  flags : List (String × Bool) := []
  deriving DecidableEq, Repr

/-- The names of the fields of a line. -/
def LogLine.fieldNames (line : LogLine) : List String := "message" :: line.flags.map (·.1)

/-! ## §2. Counters. -/

/-- What is counted. -/
inductive Metric where
  /-- Details fetched from composed resources. -/
  | fetched
  /-- Details written to stores. -/
  | published
  /-- Failed writes. -/
  | publishErrors
  /-- Composites given a default destination. -/
  | configured
  deriving DecidableEq, Repr

/-- The counters; they count modulo `2^64`. -/
structure Counters where
  fetched : UInt64 := 0
  published : UInt64 := 0
  publishErrors : UInt64 := 0
  configured : UInt64 := 0
  deriving DecidableEq, Repr

namespace Counters

/-- The value of a counter. -/
def get (c : Counters) : Metric → UInt64
  | .fetched => c.fetched
  | .published => c.published
  | .publishErrors => c.publishErrors
  | .configured => c.configured

/-- Add to a counter. -/
def add (c : Counters) (m : Metric) (n : UInt64) : Counters :=
  match m with
  | .fetched => { c with fetched := c.fetched + n }
  | .published => { c with published := c.published + n }
  | .publishErrors => { c with publishErrors := c.publishErrors + n }
  | .configured => { c with configured := c.configured + n }

theorem get_add (c : Counters) (m k : Metric) (n : UInt64) :
    (c.add m n).get k = if k = m then c.get k + n else c.get k := by
  cases m <;> cases k <;> rfl

end Counters

/-! ## §3. Events. -/

/-- Something that happened. -/
inductive Event where
  | logged (line : LogLine)
  | requested (cluster : String) (request : Cluster.Request)
  /-- A scripted collaborator was called. -/
  | called (script : Nat)

namespace Event

/-- The log line of an event. -/
def line? : Event → Option LogLine
  | .logged line => some line
  | _ => none

/-- The request of an event, if it went to this cluster. -/
def request? (cluster : String) : Event → Option Cluster.Request
  | .requested c r => if c = cluster then some r else none
  | _ => none

/-- Is the event a call of this script? -/
def isCallOf (script : Nat) : Event → Bool
  | .called s => s == script
  | _ => false

end Event

end ConnectionRelay
