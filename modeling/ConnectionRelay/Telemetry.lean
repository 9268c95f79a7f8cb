/-
  ConnectionRelay.Telemetry
  ─────────────────────────
  **LOGGING AND COUNTERS OF A PROCESS.**

  Log lines are printed from the moment logging is set up, which can be done once.  The
  counters can be registered once, and are shown from then on; they count before, too.
-/
import ConnectionRelay.Logging.Filter
import ConnectionRelay.Logging.Format
import ConnectionRelay.Metrics
import ConnectionRelay.Session

namespace ConnectionRelay

open Logging (Filter Format Printed)

/-- Why logging or counters cannot be set up. -/
inductive TelemetryError where
  | loggingAlreadySet
  | alreadyRegistered
  deriving DecidableEq, Repr

/-- The text of an error. -/
def TelemetryError.message : TelemetryError → String
  | .loggingAlreadySet =>
      "Failed to initialize logging: a global default trace dispatcher has already been set"
  | .alreadyRegistered => "Duplicate metrics collector registration attempted"

/-- The logging and the counters of a process. -/
structure Telemetry where
  /-- Which lines are printed and how, once logging is set up. -/
  logging : Option (Filter × Format) := none
  registered : Bool := false
  counters : Counters := {}
  /-- What was printed. -/
  printed : List Printed := []

namespace Telemetry

/-- Set up logging; a setting for the whole process goes before the log level. -/
def initLogging (t : Telemetry) (env : Environment) (c : Config) :
    Except TelemetryError Unit × Telemetry :=
  match t.logging with
  | some _ => (.error .loggingAlreadySet, t)
  | none =>
      let filter := Filter.ofSettings (env.text? "RUST_LOG") c.logLevel
      (.ok (), { t with logging := some (filter, .ofConfig c) })

/-- Register the counters. -/
def registerMetrics (t : Telemetry) : Except TelemetryError Unit × Telemetry :=
  if t.registered then (.error .alreadyRegistered, t)
  else (.ok (), { t with registered := true })

/-- Set up logging and, if the settings ask for it, register the counters. -/
def init (t : Telemetry) (env : Environment) (c : Config) :
    Except TelemetryError Unit × Telemetry :=
  match t.initLogging env c with
  | (.error e, t) => (.error e, t)
  | (.ok (), t) => if c.metrics then t.registerMetrics else (.ok (), t)

/-- Add to a counter; the last two count one by one. -/
def increment (t : Telemetry) (m : Metric) (n : UInt64) : Telemetry :=
  let n :=
    match m with
    | .fetched => n
    | .published => n
    | .publishErrors => 1
    | .configured => 1
  { t with counters := t.counters.add m n }

/-- The counters as text, if they are registered. -/
def gather (t : Telemetry) : String := if t.registered then t.counters.exposition else ""

/-- What is printed for log lines. -/
def print (t : Telemetry) (lines : List LogLine) : List Printed :=
  match t.logging with
  | none => []
  | some (filter, format) => (lines.filter filter.keeps).flatMap format.print

/-- Take over what a session counted and logged. -/
def absorb (t : Telemetry) (s : Session) : Telemetry :=
  { t with
    counters := s.counters
    printed := t.printed ++ t.print (s.journal.filterMap Event.line?) }

end Telemetry

end ConnectionRelay
