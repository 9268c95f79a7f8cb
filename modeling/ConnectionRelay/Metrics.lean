/-
  ConnectionRelay.Metrics
  ───────────────────────
  **SHOWING THE COUNTERS.**

  Once the counters are registered they are shown as text, one block for each in the
  order of their names.  A value is shown as the nearest binary64 number.  Counters
  count from the start of the process, whether they are registered or not.
-/
import ConnectionRelay.Journal

namespace ConnectionRelay

namespace Metric

/-- The name a counter is shown under. -/
def name : Metric → String
  | .fetched => "connection_details_fetched_total"
  | .published => "connection_details_published_total"
  | .publishErrors => "connection_publish_errors_total"
  | .configured => "connection_destinations_configured_total"

/-- What a counter counts. -/
def help : Metric → String
  | .fetched => "Total number of connection details fetched from composed resources"
  | .published => "Total number of connection details written to secret stores"
  | .publishErrors => "Total number of failed secret store writes"
  | .configured =>
      "Total number of composite resources given a default publish destination"

/-- The counters in the order of their names. -/
def all : List Metric := [.configured, .fetched, .published, .publishErrors]

end Metric

namespace Counters

/-- A counter with its description. -/
def showOne (c : Counters) (m : Metric) : String :=
  "# HELP " ++ m.name ++ " " ++ m.help ++ "\n# TYPE " ++ m.name ++ " counter\n"
    ++ m.name ++ " " ++ Json.renderWhole (c.get m) ++ "\n"

/-- All counters. -/
def exposition (c : Counters) : String := String.join (Metric.all.map c.showOne)

/-- By how much the counters rose, where they did. -/
def since (now before : Counters) : List (Metric × UInt64) :=
  (Metric.all.map fun m => (m, now.get m - before.get m)).filter fun rise => rise.2 ≠ 0

end Counters

end ConnectionRelay
