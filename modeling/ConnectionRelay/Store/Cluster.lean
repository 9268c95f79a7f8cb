/-
  ConnectionRelay.Store.Cluster
  ─────────────────────────────
  **SECRETS IN A CLUSTER.**

  The secret of an owner lies in the owner's namespace, or in a default one.  A write
  reads the secret, puts the details in and writes it back: it creates a secret that
  is not there, replaces one that changes, and leaves one that does not change alone.
  A replacement carries the resource version that was read, so the cluster refuses it
  if another writer came first.
-/
import ConnectionRelay.Cluster.Client
import ConnectionRelay.Cluster.Secret
import ConnectionRelay.Store.Basic
import ConnectionRelay.Text.Quoted

namespace ConnectionRelay

open Cluster (Secret)

/-- The secrets of a cluster. -/
structure ClusterStore where
  cluster : String
  /-- The namespace of the secrets of owners without one. -/
  defaultNamespace : String := defaultSecretNamespace

namespace ClusterStore

/-- The namespace of an owner's secret. -/
def namespaceOf (store : ClusterStore) (owner : Owner) : String :=
  owner.ns.getD store.defaultNamespace

/-- The failure of one request. -/
def failure (doing ns name : String) : Failure :=
  .context ("Failed to " ++ doing ++ " secret " ++ ns ++ "/" ++ name) (.plain "request failed")

/-- Put a place into a log line. -/
def log (level : Level) (before ns name after : String) : Operation Unit :=
  Operation.log level .clusterStore (before ++ " '" ++ ns ++ "/" ++ name ++ "'" ++ after)

/-- Drive a request under a context. -/
def attempt {α : Type} (ctx : Context) (onFailure : Failure) (request : Operation (Option α)) :
    Operation (Except Failure α) := do
  match ← ctx.run request with
  | .error e => pure (.error (.relay e))
  | .ok none => pure (.error onFailure)
  | .ok (some a) => pure (.ok a)

/-- Read the secret of a destination. -/
def find (store : ClusterStore) (ctx : Context) (ns name : String) :
    Operation (Except Failure (Option Secret)) :=
  attempt ctx (failure "get" ns name)
    (Cluster.Client.read store.cluster (Secret.path ns) name Secret.decode)

/-- Create a secret. -/
def create (store : ClusterStore) (ctx : Context) (ns name : String) (secret : Secret) :
    Operation (Except Failure Unit) := do
  let created ← attempt ctx (failure "create" ns name)
    (Cluster.Client.create store.cluster (Secret.path ns) secret.toJson Secret.decode)
  match created with
  | .error f => pure (.error f)
  | .ok _ => do
      log .info "Created connection secret" ns name ""
      pure (.ok ())

/-- Replace a secret. -/
def replace (store : ClusterStore) (ctx : Context) (ns name : String) (secret : Secret) :
    Operation (Except Failure Unit) := do
  let replaced ← attempt ctx (failure "update" ns name)
    (Cluster.Client.replace store.cluster (Secret.path ns) name secret.toJson Secret.decode)
  match replaced with
  | .error f => pure (.error f)
  | .ok _ => do
      log .info "Updated connection secret" ns name ""
      pure (.ok ())

/-- Write back what was read, with the details put in. -/
def writeBack (store : ClusterStore) (ctx : Context) (ns : String) (d : Destination)
    (details : Details) (existing : Option Secret) : Operation (Except Failure Unit) :=
  match existing with
  | none => store.create ctx ns d.name ((Secret.ofName d.name ns).apply d details)
  | some secret =>
      let updated := secret.apply d details
      if updated == secret then do
        log .debug "Connection secret" ns d.name " already up to date"
        pure (.ok ())
      else store.replace ctx ns d.name updated

/-- The cluster as a store. -/
def toStore (store : ClusterStore) : SecretStore where
  read ctx owner :=
    match owner.destination with
    | none => pure (.ok none)
    | some d => do
        let found ← store.find ctx (store.namespaceOf owner) d.name
        pure (found.map fun secret => secret.map Secret.details)
  write ctx owner details :=
    match owner.destination with
    | none => pure (.error (.noDestination owner))
    | some d => do
        let ns := store.namespaceOf owner
        match ← store.find ctx ns d.name with
        | .error f => pure (.error f)
        | .ok existing =>
            match ← ctx.ensureActive with
            | .error e => pure (.error (.relay e))
            | .ok () => store.writeBack ctx ns d details existing

/-- What a store of a cluster looks like in messages. -/
def describe (store : ClusterStore) : String :=
  "KubernetesSecretStore \x7b default_namespace: " ++ Text.quoted store.defaultNamespace
    ++ ", .. \x7d"

end ClusterStore

end ConnectionRelay
