/-
  ConnectionRelay.Updater
  ───────────────────────
  **STORING A COMPOSITE AFTER IT CHANGED.**

  An updater works on the composite itself, beside the session, and may refresh it
  with what was stored.  The updater of a cluster replaces the object through the
  dynamic API and takes over what the cluster answers.
-/
import ConnectionRelay.Cluster.ApiResource
import ConnectionRelay.Cluster.Client
import ConnectionRelay.Resource
import ConnectionRelay.Text.Quoted

namespace ConnectionRelay

/-- What works on a composite, beside the session. -/
abbrev CompositeTask (α : Type) := Task (Session × Resource) α

/-- What stores a composite. -/
abbrev Updater := Context → CompositeTask (Except Failure Unit)

namespace CompositeTask

/-- The composite as it is now. -/
def composite : CompositeTask Resource := fun st => .done st.2 st

/-- Change the composite. -/
def setComposite (r : Resource) : CompositeTask Unit := Task.modify fun st => (st.1, r)

end CompositeTask

namespace Updater

/-- The failure to replace an object. -/
def unreplaced (r : Cluster.ApiResource) (name : String) : Failure :=
  .context ("failed to replace " ++ r.kind ++ " " ++ name) (.plain "request failed")

/-- Replace an object of a cluster.  The answer is the object as it was stored. -/
def put (cluster : String) (ctx : Context) (r : Cluster.ApiResource) (ns : Option String)
    (name : String) (object : Cluster.DynamicObject) :
    CompositeTask (Except Failure Cluster.DynamicObject) := do
  let request := Cluster.Client.replace cluster (r.path ns) name object.toJson
    Cluster.DynamicObject.decode
  match ← ctx.run (Task.onFirst request) with
  | .error e => pure (.error (.relay e))
  | .ok none => pure (.error (unreplaced r name))
  | .ok (some stored) => pure (.ok stored)

/-- How a resource version that may not be there is shown. -/
def showVersion : Option String → String
  | none => "None"
  | some version => "Some(" ++ Text.quoted version ++ ")"

/-- Take over the object that was stored. -/
def takeOver (r : Cluster.ApiResource) (name : String) (stored : Cluster.DynamicObject) :
    CompositeTask (Except Failure Unit) := do
  Task.onFirst (Operation.log .debug .updater
    ("Updated " ++ r.kind ++ " " ++ name ++ " (resourceVersion="
      ++ showVersion stored.metadata.resourceVersion ++ ")"))
  match Resource.ofDynamic stored with
  | .error e => pure (.error (.plain e.message))
  | .ok refreshed => do
      CompositeTask.setComposite refreshed
      pure (.ok ())

/-- Store a composite in a cluster. -/
def ofCluster (cluster : String) : Updater := fun ctx => do
  let composite ← CompositeTask.composite
  let r := Cluster.ApiResource.ofType composite.type
  match composite.metadata.name, composite.toDynamic with
  | none, _ => pure (.error (.plain "composite resource has no name"))
  | some _, .error e => pure (.error (.plain e.message))
  | some name, .ok object => do
      match ← put cluster ctx r composite.metadata.ns name object with
      | .error f => pure (.error f)
      | .ok stored => takeOver r name stored

/-- What the updater of a cluster looks like in messages. -/
def describeOfCluster : String := "KubeCompositeUpdater \x7b .. \x7d"

end Updater

end ConnectionRelay
