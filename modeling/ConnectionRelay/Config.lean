/-
  ConnectionRelay.Config
  ──────────────────────
  **THE SETTINGS OF THE RELAY.**

  Settings are read from environment variables.  A variable that is not set, or whose
  value is no text, leaves the default.
-/
import ConnectionRelay.Allowlist
import ConnectionRelay.Store.Basic
import ConnectionRelay.Text.Lowercase

namespace ConnectionRelay

/-- The settings. -/
structure Config where
  /-- The namespace of the connection secrets of owners that have none. -/
  secretNamespace : String := defaultSecretNamespace
  /-- The store config of destinations that name none. -/
  defaultStore : String := defaultStoreConfig
  /-- The keys that may be published. -/
  allowlist : Allowlist := {}
  logLevel : String := "INFO"
  logFormat : String := "json"
  /-- Are log lines coloured? -/
  logColor : Bool := false
  /-- Are the counters registered? -/
  metrics : Bool := true
  deriving DecidableEq, Repr

/-- The environment of a process. -/
abbrev Environment := Dict Bytes

namespace Environment

/-- The value of a variable that is set to a text. -/
def text? (env : Environment) (name : String) : Option String :=
  (env.get? name).bind Bytes.toText?

/-- Does a text stand for yes? -/
def isYes (s : String) : Bool := ["true", "1", "yes", "on"].contains (Text.lowercase s)

/-- The text of a variable, or a default. -/
def textOr (env : Environment) (name default : String) : String :=
  (env.text? name).getD default

/-- The truth value of a variable, or a default. -/
def boolOr (env : Environment) (name : String) (default : Bool) : Bool :=
  ((env.text? name).map isYes).getD default

end Environment

/-- The settings of an environment. -/
def Config.ofEnvironment (env : Environment) : Config where
  secretNamespace := env.textOr "POD_NAMESPACE" defaultSecretNamespace
  defaultStore := env.textOr "DEFAULT_STORE_CONFIG" defaultStoreConfig
  allowlist := ((env.text? "CONNECTION_DETAILS_FILTER").map Allowlist.parse).getD {}
  logLevel := env.textOr "LOG_LEVEL" "INFO"
  logFormat := env.textOr "LOG_FORMAT" "json"
  logColor := env.boolOr "LOG_ENABLE_COLOR" false
  metrics := env.boolOr "ENABLE_METRICS" true

end ConnectionRelay
