/-
  ConnectionRelay.Publisher
  ─────────────────────────
  **PUBLISHING DETAILS FOR AN OWNER.**

  A publisher says whether it published anything.  A chain hands the same details to
  its publishers in order and stops at the first error, which carries whether anything
  was published before it; nothing is rolled back.  The publisher of a store writes the
  details that its allow-list allows to the owner's connection secret.
-/
import ConnectionRelay.Allowlist
import ConnectionRelay.Store.Basic

namespace ConnectionRelay

/-- What publishes details for an owner. -/
abbrev Publisher := Context → Owner → Details → Operation (Except PublishError Bool)

namespace Publisher

/-! ## §1. Chains. -/

/-- Hand details to publishers in order, after something was published or not. -/
def chainFrom (published : Bool) : List Publisher → Publisher
  | [], _, _, _ => pure (.ok published)
  | publisher :: rest, ctx, owner, details => do
      match ← ctx.ensureActive with
      | .error e => pure (.error ⟨e, published⟩)
      | .ok () =>
          match ← publisher ctx owner details with
          | .ok flag => chainFrom (published || flag) rest ctx owner details
          | .error e => pure (.error ⟨e.source, published || e.published⟩)

/-- Hand details to publishers in order. -/
def chain (publishers : List Publisher) : Publisher := chainFrom false publishers

/-- What a chain looks like in messages. -/
def describeChain (length : Nat) : String :=
  "ConnectionPublisherChain \x7b publishers: " ++ toString length ++ " \x7d"

/-! ## §2. The publisher of a store. -/

/-- Count a failed write, unless it was cancelled. -/
def countFailure (e : ConnectionError) : Operation Unit :=
  if e.isCancelled then pure () else Operation.count .publishErrors 1

/-- Log and count a successful write. -/
def reportWritten (owner : Owner) (d : Destination) (details : Details) : Operation Unit := do
  Operation.log .info .publisher
    ("Published " ++ toString details.size ++ " connection detail(s) of " ++ owner.name
      ++ " to secret '" ++ d.name ++ "'")
  Operation.count .published details.size

theorem countFailure_apply (e : ConnectionError) (s : Session) :
    countFailure e s = .done () (countFailure e s).state := by
  unfold countFailure
  by_cases h : e.isCancelled = true
  · simp only [h, if_true]
    rfl
  · simp only [h]
    rfl

/-- Write details to the destination of an owner. -/
def writeTo (store : SecretStore) (d : Destination) (ctx : Context) (owner : Owner)
    (details : Details) : Operation (Except PublishError Bool) := do
  match ← ctx.run (store.write ctx owner details) with
  | .error e => pure (.error ⟨e, false⟩)
  | .ok (.error f) => do
      let e := ConnectionError.ofFailure .publish f
      countFailure e
      pure (.error ⟨e, false⟩)
  | .ok (.ok ()) => do
      reportWritten owner d details
      pure (.ok true)

/-- Log that an owner does not want its details published. -/
def logUnwanted (owner : Owner) : Operation Unit :=
  Operation.log .debug .publisher
    (owner.name ++ " has no publish destination, skipping store publish")

/-- Write what the allow-list allows to the owner's connection secret.  An owner
without a destination does not want its details published. -/
def ofStore (store : SecretStore) (allowlist : Allowlist) : Publisher :=
  fun ctx owner details =>
    match owner.destination with
    | none => do
        logUnwanted owner
        pure (.ok false)
    | some d => writeTo store d ctx owner (allowlist.restrict details)

/-- What the publisher of a store looks like in messages. -/
def describeOfStore? (allowlist : Allowlist) : Option String :=
  allowlist.describe?.map fun keys =>
    "SecretStoreConnectionPublisher \x7b filter: " ++ keys ++ ", .. \x7d"

end Publisher

end ConnectionRelay
