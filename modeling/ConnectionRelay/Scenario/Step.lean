/-
  ConnectionRelay.Scenario.Step
  ─────────────────────────────
  **SCENARIOS STEP BY STEP.**

  A step is one operation on the collaborators of a workbench.  What can be told of a
  step is its answer and how the workbench changed.  A step has no answer if it uses a
  name that is not there, or if its operation never ends.
-/
import ConnectionRelay.Metrics
import ConnectionRelay.Scenario.Setup

namespace ConnectionRelay.Scenario

/-! ## §1. Steps. -/

/-- Details that a step is given. -/
inductive DetailsSource where
  | given (details : Details)
  | stored (name : String)

/-- A step.  The first name of a step that works under a context is that context. -/
inductive Step where
  | read (ctx store owner : String)
  | write (ctx store owner : String) (details : DetailsSource)
  | fetch (ctx fetcher composed : String) (template : Json) (into : Option String)
  | publish (ctx publisher owner : String) (details : DetailsSource)
  | configure (ctx updater composite : String) (composition : Json)
  | merge (into : String) (details : DetailsSource)
  | setDestination (object : String) (destination : Json)
  | setSpec (object : String) (spec : Json)
  | child (ctx name : String)
  | copyContext (ctx name : String)
  | newContext (name : String) (fired : Bool)
  | cancel (ctx : String)
  | ensureActive (ctx : String)
  | run (ctx : String) (cancel : Option String) (pauses : Nat) (hang : Bool) (value : Json)

/-- The answer of a step. -/
inductive Answer where
  | nothing
  | flag (value : Bool)
  | value (value : Json)
  | details (details : Option Details)
  | undecodable (error : Wire.DecodeError)
  | failed (failure : Failure)
  | refused (error : ConnectionError)
  | unfetched (error : FetchError)
  | unpublished (error : PublishError)

/-- The answer of a step that gives nothing or fails. -/
def Answer.ofUnit {ε : Type} (onError : ε → Answer) : Except ε Unit → Answer
  | .ok () => .nothing
  | .error e => onError e

/-! ## §2. Running a step. -/

namespace Workbench

/-- Work on the session alone. -/
def onSession (w : Workbench) (f : Session → Session) : Workbench :=
  { w with session := f w.session }

/-- Run an operation to its end. -/
def perform {α : Type} (w : Workbench) (t : Operation α) : Option (α × Workbench) := do
  let (a, session) ← (t w.session).finish
  some (a, { w with session })

/-- The details that a step is given; a variable that is not set has none. -/
def detailsOf (w : Workbench) : DetailsSource → Details
  | .given details => details
  | .stored name => (w.vars.get? name).getD .empty

/-- Merge details into a variable. -/
def mergeInto (w : Workbench) (name : String) (details : Details) : Workbench :=
  { w with
    vars := w.vars.insert name (((w.vars.get? name).getD .empty).merge details) }

/-- Merge what was fetched into a variable, if one is named. -/
def keepFetched (w : Workbench) (into : Option String) (fetched : Option Details) : Workbench :=
  match into, fetched with
  | some name, some details => w.mergeInto name details
  | _, _ => w

/-- Change an object by what may turn out not to be of its type. -/
def changeObject {α : Type} (w : Workbench) (name : String) (value : Except Wire.DecodeError α)
    (change : Resource → α → Resource) : Option (Answer × Workbench) := do
  let object ← w.objects.get? name
  match value with
  | .error e => some (.undecodable e, w)
  | .ok a => some (.nothing, { w with objects := w.objects.insert name (change object a) })

/-- Read an owner's secret. -/
def read (w : Workbench) (ctx : Context) (store : SecretStore) (owner : Owner) :
    Option (Answer × Workbench) := do
  let (result, w) ← w.perform (store.read ctx owner)
  match result with
  | .ok details => some (.details details, w)
  | .error f => some (.failed f, w)

/-- Fetch by a template. -/
def fetch (w : Workbench) (ctx : Context) (fetcher : Fetcher) (owner : Owner)
    (template : Json) (into : Option String) : Option (Answer × Workbench) :=
  match Template.decode.value template with
  | .error e => some (.undecodable e, w)
  | .ok template => do
      let (result, w) ← w.perform (fetcher ctx owner template)
      match result with
      | .ok fetched => some (.details fetched, w.keepFetched into fetched)
      | .error e => some (.unfetched e, w)

/-- Publish details. -/
def publish (w : Workbench) (ctx : Context) (publisher : Publisher) (owner : Owner)
    (details : Details) : Option (Answer × Workbench) := do
  let (result, w) ← w.perform (publisher ctx owner details)
  match result with
  | .ok flag => some (.flag flag, w)
  | .error e => some (.unpublished e, w)

/-- Configure a composite by a composition. -/
def configure (w : Workbench) (ctx : Context) (updater : Updater) (name : String)
    (composite : Resource) (composition : Json) : Option (Answer × Workbench) :=
  match CompositionSpec.decode.value composition with
  | .error e => some (.undecodable e, w)
  | .ok composition => do
      let (result, session, composite) ←
        (Configurator.configure updater ctx composition (w.session, composite)).finish
      some (.ofUnit .refused result,
        { w with session, objects := w.objects.insert name composite })

/-- Run a task under a context that cancels, is suspended, and gives a value. -/
def runTask (w : Workbench) (ctx : Context) (cancel : Option String) (pauses : Nat)
    (hang : Bool) (value : Json) : Option (Answer × Workbench) := do
  let task : Operation Json := do
    Task.modify fun s => s.cancelNamed cancel
    Task.pauses pauses
    if hang then Task.hang else pure value
  let (result, w) ← w.perform (ctx.run task)
  match result with
  | .ok value => some (.value value, w)
  | .error e => some (.refused e, w)

/-- Run a step. -/
def step (w : Workbench) : Step → Option (Answer × Workbench)
  | .read ctx store owner => do
      w.read (← w.session.context? ctx) (← w.stores.get? store) (← w.objects.get? owner).owner
  | .write ctx store owner details => do
      let store ← w.stores.get? store
      let owner ← w.objects.get? owner
      let (result, w) ←
        w.perform (store.write (← w.session.context? ctx) owner.owner (w.detailsOf details))
      some (.ofUnit .failed result, w)
  | .fetch ctx fetcher composed template into => do
      w.fetch (← w.session.context? ctx) (← w.fetchers.get? fetcher)
        (← w.objects.get? composed).owner template into
  | .publish ctx publisher owner details => do
      w.publish (← w.session.context? ctx) (← w.publishers.get? publisher)
        (← w.objects.get? owner).owner (w.detailsOf details)
  | .configure ctx updater composite composition => do
      w.configure (← w.session.context? ctx) (← w.updaters.get? updater) composite
        (← w.objects.get? composite) composition
  | .merge into details =>
      let w := w.mergeInto into (w.detailsOf details)
      some (.details (w.vars.get? into), w)
  | .setDestination object destination =>
      w.changeObject object ((Wire.option Destination.decode).value destination)
        Resource.withDestination
  | .setSpec object spec =>
      w.changeObject object (ConnectionSpec.decode.value spec)
        fun r spec => { r with spec }
  | .child ctx name => do
      let ctx ← w.session.context? ctx
      let (token, session) := w.session.freshToken
      some (.nothing, { w with session := session.nameContext name (ctx.derive token) })
  | .copyContext ctx name => do
      let ctx ← w.session.context? ctx
      some (.nothing, w.onSession fun s => s.nameContext name ctx)
  | .newContext name fired =>
      let (token, session) := w.session.freshToken
      let session := session.nameContext name ⟨[token]⟩
      some (.nothing, { w with session := if fired then session.fire token else session })
  | .cancel ctx => do
      let ctx ← w.session.context? ctx
      some (.nothing, w.onSession fun s => s.cancel ctx)
  | .ensureActive ctx => do
      let (result, w) ← w.perform ((← w.session.context? ctx).ensureActive)
      some (.ofUnit .refused result, w)
  | .run ctx cancel pauses hang value => do
      w.runTask (← w.session.context? ctx) cancel pauses hang value

end Workbench

/-! ## §3. Observations. -/

/-- What can be told of a step. -/
structure Observation where
  answer : Answer
  before : Workbench
  after : Workbench

namespace Observation

/-- What happened during the step. -/
def events (o : Observation) : List Event :=
  o.after.session.journal.drop o.before.session.journal.length

/-- What the relay itself logged during the step. -/
def lines (o : Observation) : List LogLine :=
  (o.events.filterMap Event.line?).filter (·.origin.isOwn)

/-- The requests to a cluster during the step. -/
def requests (o : Observation) (cluster : String) : List Cluster.Request :=
  o.events.filterMap (Event.request? cluster)

/-- By how much the counters rose during the step, where they did. -/
def rises (o : Observation) : List (Metric × UInt64) :=
  o.after.session.counters.since o.before.session.counters

end Observation

/-- Run steps in order. -/
def Workbench.steps (w : Workbench) : List Step → Option (List Observation × Workbench)
  | [] => some ([], w)
  | s :: rest => do
      let (answer, after) ← w.step s
      let (observations, last) ← after.steps rest
      some (⟨answer, w, after⟩ :: observations, last)

end ConnectionRelay.Scenario
