/-
  ConnectionRelay.Configurator
  ────────────────────────────
  **GIVING A COMPOSITE A DEFAULT DESTINATION.**

  A composite without a destination is given one, named after its unique id in the
  default store of its composition, and stored.  If that fails the destination is
  taken back, so the next attempt stores it again.
-/
import ConnectionRelay.Composition
import ConnectionRelay.Updater

namespace ConnectionRelay.Configurator

/-- The destination of a composite that names none itself. -/
def defaultDestination (composite : Resource) (store : String) : Destination :=
  .inStore composite.uid store

/-- Log that a composite is given a destination. -/
def announce (composite : Resource) (d : Destination) (store : String) : Operation Unit :=
  Operation.log .info .configurator
    ("Defaulting publish destination of " ++ composite.name ++ " to secret '" ++ d.name
      ++ "' in store config '" ++ store ++ "'")

/-- Store a composite that was given a destination, or take the destination back. -/
def persist (updater : Updater) (ctx : Context) :
    CompositeTask (Except ConnectionError Unit) := do
  let updated ← ctx.run (updater ctx)
  let result : Except ConnectionError Unit :=
    match updated with
    | .error e => .error e
    | .ok (.error f) => .error (.ofFailure .updateComposite f)
    | .ok (.ok ()) => .ok ()
  match result with
  | .error e => do
      Task.modify fun st => (st.1, st.2.withDestination none)
      pure (.error e)
  | .ok () => do
      Task.onFirst (Operation.count .configured 1)
      pure (.ok ())

/-- Give a composite the default destination in a store. -/
def assign (updater : Updater) (ctx : Context) (store : String) :
    CompositeTask (Except ConnectionError Unit) := do
  let composite ← CompositeTask.composite
  let d := defaultDestination composite store
  Task.onFirst (announce composite d store)
  CompositeTask.setComposite (composite.withDestination (some d))
  persist updater ctx

/-- Configure a composite by its composition. -/
def configure (updater : Updater) (ctx : Context) (composition : CompositionSpec) :
    CompositeTask (Except ConnectionError Unit) := do
  let composite ← CompositeTask.composite
  if !composition.appliesTo composite.type then
    pure (.error (.compositionMismatch composition.compositeType composite.type))
  else
    match composition.defaultStore, composite.destination with
    | none, _ => pure (.ok ())
    | some _, some _ => pure (.ok ())
    | some store, none => do
        match ← ctx.ensureActive with
        | .error e => pure (.error e)
        | .ok () => assign updater ctx store

end ConnectionRelay.Configurator
