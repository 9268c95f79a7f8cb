/-
  ConnectionRelay.Store.Basic
  ───────────────────────────
  **STORES OF CONNECTION SECRETS.**

  A store holds the connection secrets of owners, each addressed by the owner's
  publish destination.  Reading an owner without a destination finds nothing; writing
  merges details into the secret and creates it if it is not there.
-/
import ConnectionRelay.Resource
import ConnectionRelay.Session

namespace ConnectionRelay

/-- A store of connection secrets. -/
structure SecretStore where
  /-- The details of the owner's secret, if there is one. -/
  read : Context → Owner → Operation (Except Failure (Option Details))
  /-- Merge details into the owner's secret. -/
  write : Context → Owner → Details → Operation (Except Failure Unit)

/-- The failure of a write for an owner without a destination. -/
def Failure.noDestination (owner : Owner) : Failure :=
  .plain (owner.name ++ " has no publish destination")

/-- The store config of destinations that name none. -/
def defaultStoreConfig : String := "default"

/-- The namespace of the connection secrets of owners that have none. -/
def defaultSecretNamespace : String := "crossplane-system"

end ConnectionRelay
