/-
  ConnectionRelay.Scenario.Setup
  ──────────────────────────────
  **COLLABORATORS BY NAME.**

  A setup names clusters, stores, fetchers, publishers, updaters and objects.  Building
  it gives a workbench, on which the steps of a scenario work.  A collaborator may only
  use those that were built before it; it keeps them when their names are given away
  again.
-/
import ConnectionRelay.Config
import ConnectionRelay.Configurator
import ConnectionRelay.Script
import ConnectionRelay.Store.Cluster
import ConnectionRelay.Store.Memory
import ConnectionRelay.Store.Router

namespace ConnectionRelay.Scenario

/-! ## §1. Setups. -/

/-- A store of a setup. -/
inductive StoreSetup where
  | memory
  | router (default : String) (routes : List (String × String))
  | cluster (cluster ns : String)
  | script (reads : Script (Except Failure (Option Details)))
      (writes : Script (Except Failure Unit))

/-- A fetcher of a setup. -/
inductive FetcherSetup where
  | store (store : String)
  | chain (fetchers : List String)
  | script (script : Script (Except FetchError (Option Details)))

/-- A publisher of a setup. -/
inductive PublisherSetup where
  | store (store : String) (allowlist : Allowlist)
  | chain (publishers : List String)
  | script (script : Script (Except PublishError Bool))

/-- An updater of a setup. -/
inductive UpdaterSetup where
  | cluster (cluster : String)
  | script (script : Script Update)

/-- A setup. -/
structure Setup where
  clusters : List (String × Cluster.ApiServer) := []
  stores : List (String × StoreSetup) := []
  fetchers : List (String × FetcherSetup) := []
  publishers : List (String × PublisherSetup) := []
  updaters : List (String × UpdaterSetup) := []
  objects : List (String × Resource) := []

/-! ## §2. The workbench. -/

/-- What the steps of a scenario work on. -/
structure Workbench where
  session : Session
  stores : Dict SecretStore := .empty
  fetchers : Dict Fetcher := .empty
  publishers : Dict Publisher := .empty
  updaters : Dict Updater := .empty
  objects : Dict Resource := .empty
  vars : Dict Details := .empty
  /-- The in-memory stores, the latest of each name. -/
  memories : Dict Nat := .empty
  /-- The scripts, the latest of each name. -/
  scripts : Dict Nat := .empty
  /-- The number of the next script. -/
  nextScript : Nat := 0
  /-- What collaborators look like in messages. -/
  descriptions : Dict String := .empty

namespace Workbench

/-- The name of the context every scenario starts with. -/
def rootContext : String := "root"

/-- A workbench without collaborators. -/
def start (counters : Counters) : Workbench :=
  let (token, session) := Session.freshToken { counters }
  { session := session.nameContext rootContext ⟨[token]⟩ }

/-- Give the next script a name; its number. -/
def freshScript (w : Workbench) (name : String) : Nat × Workbench :=
  (w.nextScript,
    { w with scripts := w.scripts.insert name w.nextScript, nextScript := w.nextScript + 1 })

/-- Write down what a collaborator looks like, if that can be told. -/
def describe (w : Workbench) (name : String) (description : Option String) : Workbench :=
  match description with
  | some d => { w with descriptions := w.descriptions.insert name d }
  | none => w

/-- Add a cluster. -/
def addCluster (w : Workbench) (entry : String × Cluster.ApiServer) : Workbench :=
  { w with session := w.session.setServer entry.1 entry.2 }

/-- The stores that a router passes on to. -/
def routes (w : Workbench) (router : StoreRouter) :
    List (String × String) → Option StoreRouter
  | [] => some router
  | (config, name) :: rest => do
      let store ← w.stores.get? name
      w.routes (router.register config store) rest

/-- Add a store. -/
def addStore (w : Workbench) (entry : String × StoreSetup) : Option Workbench := do
  let (name, setup) := entry
  let put (w : Workbench) (store : SecretStore) : Workbench :=
    { w with stores := w.stores.insert name store }
  match setup with
  | .memory =>
      let (id, session) := w.session.freshStore
      some (put { w with session, memories := w.memories.insert name id } (.memory id))
  | .router default entries => do
      let router ← w.routes { default } entries
      some ((put w router.toStore).describe name router.describe)
  | .cluster cluster ns =>
      let store : ClusterStore := { cluster, defaultNamespace := ns }
      some ((put w store.toStore).describe name store.describe)
  | .script reads writes =>
      let (readId, w) := w.freshScript (name ++ ".read")
      let (writeId, w) := w.freshScript (name ++ ".write")
      some (put w (.scripted readId writeId reads writes))

/-- Add a fetcher. -/
def addFetcher (w : Workbench) (entry : String × FetcherSetup) : Option Workbench := do
  let (name, setup) := entry
  let put (w : Workbench) (fetcher : Fetcher) : Workbench :=
    { w with fetchers := w.fetchers.insert name fetcher }
  match setup with
  | .store store => do
      let store ← w.stores.get? store
      some ((put w (.ofStore store)).describe name Fetcher.describeOfStore)
  | .chain names => do
      let fetchers ← names.mapM w.fetchers.get?
      some ((put w (.chain fetchers)).describe name (Fetcher.describeChain fetchers.length))
  | .script script =>
      let (id, w) := w.freshScript name
      some (put w (.scripted id script))

/-- Add a publisher. -/
def addPublisher (w : Workbench) (entry : String × PublisherSetup) : Option Workbench := do
  let (name, setup) := entry
  let put (w : Workbench) (publisher : Publisher) : Workbench :=
    { w with publishers := w.publishers.insert name publisher }
  match setup with
  | .store store allowlist => do
      let store ← w.stores.get? store
      some ((put w (.ofStore store allowlist)).describe name
        (Publisher.describeOfStore? allowlist))
  | .chain names => do
      let publishers ← names.mapM w.publishers.get?
      some ((put w (.chain publishers)).describe name
        (Publisher.describeChain publishers.length))
  | .script script =>
      let (id, w) := w.freshScript name
      some (put w (.scripted id script))

/-- Add an updater. -/
def addUpdater (w : Workbench) (entry : String × UpdaterSetup) : Workbench :=
  let (name, setup) := entry
  let put (w : Workbench) (updater : Updater) : Workbench :=
    { w with updaters := w.updaters.insert name updater }
  match setup with
  | .cluster cluster =>
      (put w (.ofCluster cluster)).describe name Updater.describeOfCluster
  | .script script =>
      let (id, w) := w.freshScript name
      put w (.scripted id script)

/-- Add an object. -/
def addObject (w : Workbench) (entry : String × Resource) : Workbench :=
  { w with objects := w.objects.insert entry.1 entry.2 }

end Workbench

/-- Build a setup; there is no workbench if a collaborator uses one that is not there. -/
def Setup.build (setup : Setup) (counters : Counters) : Option Workbench := do
  let w := setup.clusters.foldl Workbench.addCluster (.start counters)
  let w ← setup.stores.foldlM Workbench.addStore w
  let w ← setup.fetchers.foldlM Workbench.addFetcher w
  let w ← setup.publishers.foldlM Workbench.addPublisher w
  let w := setup.updaters.foldl Workbench.addUpdater w
  some (setup.objects.foldl Workbench.addObject w)

end ConnectionRelay.Scenario
