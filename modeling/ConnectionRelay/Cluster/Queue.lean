/-
  ConnectionRelay.Cluster.Queue
  ─────────────────────────────
  **WHAT THE QUEUES OF REQUESTS LOG.**

  Every cluster has a queue, through which all requests to it go.  A queue is idle until
  the relay is suspended; then it looks for a request, hands on the one it finds, and
  looks for the next.
-/
import ConnectionRelay.Journal

namespace ConnectionRelay.Cluster.Queue

/-- A request enters a queue. -/
def entered : LogLine :=
  { level := .trace, origin := .queueEntrance, message := "sending request to buffer worker" }

/-- A line of the end where requests are taken from a queue. -/
def remark (level : Level) (message : String) (flags : List (String × Bool)) : LogLine :=
  { level, origin := .queueWorker, message, flags }

/-- A queue looks for a request. -/
def looking : LogLine := remark .trace "worker polling for next message" []

/-- A queue hands on a request. -/
def handing : List LogLine :=
  [remark .trace "processing new request" [],
   remark .trace "worker received request; waiting for service readiness"
     [("resumed", false)],
   remark .debug "processing request" [("service.ready", true)],
   remark .trace "returning response future" []]

/-- What one queue logs while the relay is suspended: one that waits already is woken by
a request alone. -/
def turnOf (waits asked : Bool) : List LogLine :=
  if asked then looking :: handing ++ [looking]
  else if waits then []
  else [looking]

/-- What the queues of some clusters log while the relay is suspended after a request to
one of them. -/
def turn (clusters : List String) (wait : Bool) (asked : String) : List LogLine :=
  clusters.flatMap fun cluster => turnOf wait (cluster == asked)

end ConnectionRelay.Cluster.Queue
