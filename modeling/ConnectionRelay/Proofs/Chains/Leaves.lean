/-
  ConnectionRelay.Proofs.Chains.Leaves
  ────────────────────────────────────
  **WHAT A CALL OF A LEAF COMES TO.**

  The fetcher of a store reads, and the publisher of a store writes, driven under the
  context.  What the store came to decides what is returned, what is counted, and in which
  state the call ends; so it is what the record of a call says.  Main statements:

    • `Fetcher.ofStore_eq`, `Publisher.ofStore_eq` — a call is the store's, with a verdict,
    • `FetchTree.ends_iff`, `PublishTree.ends_iff` — a tree ends as one of its runs does.
-/
import ConnectionRelay.Proofs.Chains.Visits
import ConnectionRelay.Proofs.Pipeline.EndToEnd

namespace ConnectionRelay

/-! ## §1. Fetching from a store. -/

/-- What the read of a store, driven under a context, came to. -/
abbrev ReadOutcome := Except ConnectionError (Except Failure (Option Details))

namespace Fetcher

/-- What is returned for what the read came to. -/
def verdict (template : Template) : ReadOutcome → FetchTree.Result
  | .error e => .error ⟨e, none⟩
  | .ok answer => selected template answer

/-- The session after the read has ended: what an answer yields is reported. -/
def concluded (owner : Owner) (template : Template) (outcome : ReadOutcome) (s : Session) :
    Session :=
  match outcome with
  | .ok (.ok payload) => (report owner (.of (payload.getD .empty) template) s).state
  | _ => s

/-- A call of the fetcher of a store. -/
theorem ofStore_eq (store : SecretStore) (ctx : Context) (owner : Owner) (template : Template)
    (s : Session) :
    ofStore store ctx owner template s
      = (ctx.run (store.read ctx owner) s).bind fun outcome s =>
          .done (verdict template outcome) (concluded owner template outcome s) := by
  unfold ofStore
  rw [Task.bind_apply]
  congr 1
  funext outcome s
  rcases outcome with e | f | payload
  · rfl
  · rfl
  · exact report_apply owner _ s

end Fetcher

/-- What was called as a leaf of a tree of fetchers, and what it came to. -/
inductive FetchStep where
  | asked (fetcher : Fetcher) (result : FetchTree.Result)
  | read (store : SecretStore) (outcome : ReadOutcome)

/-- What the call has returned. -/
def FetchStep.returned (template : Template) : FetchStep → FetchTree.Result
  | .asked _ result => result
  | .read _ outcome => Fetcher.verdict template outcome

/-- The records of the calls of a leaf. -/
inductive FetchLeaf.Ran (ctx : Context) (owner : Owner) (template : Template) :
    FetchLeaf → Visit FetchStep Session → Prop where
  | asked {fetcher : Fetcher} {result : FetchTree.Result} {s s' : Session}
      {changes : List (Session × Session)}
      (hends : (fetcher ctx owner template s).Ends changes result s') :
      FetchLeaf.Ran ctx owner template (.any fetcher) ⟨.asked fetcher result, s, changes, s'⟩
  | read {store : SecretStore} {outcome : ReadOutcome} {s finish : Session}
      {changes : List (Session × Session)}
      (hends : (ctx.run (store.read ctx owner) s).Ends changes outcome finish) :
      FetchLeaf.Ran ctx owner template (.ofStore store)
        ⟨.read store outcome, s, changes, Fetcher.concluded owner template outcome finish⟩

/-- How the leaves of a tree of fetchers are called. -/
def FetchLeaf.calling (ctx : Context) (owner : Owner) (template : Template) :
    Calling FetchLeaf FetchStep Session FetchTree.Result where
  act leaf := leaf.fetcher ctx owner template
  returned := FetchStep.returned template
  Ran := Ran ctx owner template
  ends_iff leaf s changes r s' := by
    constructor
    · intro hends
      cases leaf with
      | any fetcher => exact ⟨.asked fetcher r, .asked hends, rfl⟩
      | ofStore store =>
          rw [fetcher, Fetcher.ofStore_eq, Progress.ends_bind_done_iff] at hends
          obtain ⟨outcome, finish, hread, rfl, rfl⟩ := hends
          exact ⟨.read store outcome, .read hread, rfl⟩
    · rintro ⟨step, hran, rfl⟩
      cases hran with
      | asked hends => exact hends
      | read hread =>
          rw [fetcher, Fetcher.ofStore_eq, Progress.ends_bind_done_iff]
          exact ⟨_, _, hread, rfl, rfl⟩

/-- Every leaf of the tree is the fetcher of a store of some kind. -/
def FetchTree.Over (P : SecretStore → Prop) (tree : FetchTree) : Prop :=
  ∀ leaf ∈ tree.leaves, ∃ store, leaf = .ofStore store ∧ P store

/-- A run of a tree of fetchers: the leaves it calls, and what it returns. -/
abbrev FetchTree.Runs (ctx : Context) (owner : Owner) (template : Template) (tree : FetchTree) :
    Session → List (Visit FetchStep Session) → FetchTree.Result → Session → Prop :=
  tree.nest.Runs (FetchLeaf.calling ctx owner template) Fetcher.gathering ctx

/-- **A tree of fetchers ends exactly as one of its runs does.** -/
theorem FetchTree.ends_iff {ctx : Context} {owner : Owner} {template : Template}
    {tree : FetchTree} {s s' : Session} {changes : List (Session × Session)} {r : Result} :
    (tree.fetcher ctx owner template s).Ends changes r s' ↔
      ∃ visits, tree.Runs ctx owner template s visits r s'
        ∧ changes = visits.flatMap Visit.changes := by
  rw [fetcher_eq]
  exact Nest.ends_task_iff (c := FetchLeaf.calling ctx owner template) tree.nest

/-! ## §2. Publishing to a store. -/

/-- What the write of a store, driven under a context, came to. -/
abbrev WriteOutcome := Except ConnectionError (Except Failure Unit)

namespace Publisher

/-- What is returned for what the write came to. -/
def verdict : WriteOutcome → PublishTree.Result
  | .error e => .error ⟨e, false⟩
  | .ok (.error f) => .error ⟨.ofFailure .publish f, false⟩
  | .ok (.ok ()) => .ok true

/-- The session after the write has ended: a success is reported, and a failure counted. -/
def concluded (owner : Owner) (d : Destination) (details : Details) (outcome : WriteOutcome)
    (s : Session) : Session :=
  match outcome with
  | .error _ => s
  | .ok (.error f) => (countFailure (.ofFailure .publish f) s).state
  | .ok (.ok ()) => (reportWritten owner d details s).state

/-- A call of the publisher of a store, for an owner with a destination. -/
theorem ofStore_eq {owner : Owner} {d : Destination} (hdestination : owner.destination = some d)
    (store : SecretStore) (allowlist : Allowlist) (ctx : Context) (details : Details)
    (s : Session) :
    ofStore store allowlist ctx owner details s
      = (ctx.run (store.write ctx owner (allowlist.restrict details)) s).bind fun outcome s =>
          .done (verdict outcome)
            (concluded owner d (allowlist.restrict details) outcome s) := by
  unfold ofStore
  rw [hdestination]
  show (ctx.run (store.write ctx owner (allowlist.restrict details)) s).bind _ = _
  congr 1
  funext outcome s
  rcases outcome with e | f | _
  · rfl
  · show (countFailure _ s).bind _ = _
    rw [countFailure_apply]
    rfl
  · rfl

/-- A call of the publisher of a store, for an owner without a destination. -/
theorem ofStore_unwanted {owner : Owner} (hnone : owner.destination = none) (store : SecretStore)
    (allowlist : Allowlist) (ctx : Context) (details : Details) (s : Session) :
    ofStore store allowlist ctx owner details s
      = .done (.ok false) (logUnwanted owner s).state := by
  unfold ofStore
  rw [hnone]
  rfl

end Publisher

/-- What was called as a leaf of a tree of publishers, and what it came to. -/
inductive PublishStep where
  | asked (publisher : Publisher) (result : PublishTree.Result)
  /-- The publisher of a store, for an owner without a destination. -/
  | unwanted
  | wrote (store : SecretStore) (allowlist : Allowlist) (outcome : WriteOutcome)

/-- What the call has returned. -/
def PublishStep.returned : PublishStep → PublishTree.Result
  | .asked _ result => result
  | .unwanted => .ok false
  | .wrote _ _ outcome => Publisher.verdict outcome

/-- The records of the calls of a leaf. -/
inductive PublishLeaf.Ran (ctx : Context) (owner : Owner) (details : Details) :
    PublishLeaf → Visit PublishStep Session → Prop where
  | asked {publisher : Publisher} {result : PublishTree.Result} {s s' : Session}
      {changes : List (Session × Session)}
      (hends : (publisher ctx owner details s).Ends changes result s') :
      PublishLeaf.Ran ctx owner details (.any publisher) ⟨.asked publisher result, s, changes, s'⟩
  | unwanted {store : SecretStore} {allowlist : Allowlist} {s : Session}
      (hnone : owner.destination = none) :
      PublishLeaf.Ran ctx owner details (.ofStore store allowlist)
        ⟨.unwanted, s, [], (Publisher.logUnwanted owner s).state⟩
  | wrote {store : SecretStore} {allowlist : Allowlist} {outcome : WriteOutcome}
      {s finish : Session} {changes : List (Session × Session)} {d : Destination}
      (hdestination : owner.destination = some d)
      (hends : (ctx.run (store.write ctx owner (allowlist.restrict details)) s).Ends changes
        outcome finish) :
      PublishLeaf.Ran ctx owner details (.ofStore store allowlist)
        ⟨.wrote store allowlist outcome, s, changes,
          Publisher.concluded owner d (allowlist.restrict details) outcome finish⟩

/-- How the leaves of a tree of publishers are called. -/
def PublishLeaf.calling (ctx : Context) (owner : Owner) (details : Details) :
    Calling PublishLeaf PublishStep Session PublishTree.Result where
  act leaf := leaf.publisher ctx owner details
  returned := PublishStep.returned
  Ran := Ran ctx owner details
  ends_iff leaf s changes r s' := by
    constructor
    · intro hends
      cases leaf with
      | any publisher => exact ⟨.asked publisher r, .asked hends, rfl⟩
      | ofStore store allowlist =>
          -- without a destination the call ends before the store is asked
          cases hdestination : owner.destination with
          | none =>
              rw [publisher, Publisher.ofStore_unwanted hdestination,
                Progress.ends_done_iff] at hends
              obtain ⟨rfl, rfl, rfl⟩ := hends
              exact ⟨.unwanted, .unwanted hdestination, rfl⟩
          | some d =>
              rw [publisher, Publisher.ofStore_eq hdestination,
                Progress.ends_bind_done_iff] at hends
              obtain ⟨outcome, finish, hwrite, rfl, rfl⟩ := hends
              exact ⟨.wrote store allowlist outcome, .wrote hdestination hwrite, rfl⟩
    · rintro ⟨step, hran, rfl⟩
      cases hran with
      | asked hends => exact hends
      | unwanted hnone =>
          rw [publisher, Publisher.ofStore_unwanted hnone]
          exact .done _ _
      | wrote hdestination hwrite =>
          rw [publisher, Publisher.ofStore_eq hdestination, Progress.ends_bind_done_iff]
          exact ⟨_, _, hwrite, rfl, rfl⟩

/-- Every leaf of the tree is the publisher of a store of some kind. -/
def PublishTree.Over (P : SecretStore → Prop) (tree : PublishTree) : Prop :=
  ∀ leaf ∈ tree.leaves, ∃ store allowlist, leaf = .ofStore store allowlist ∧ P store

/-- A run of a tree of publishers: the leaves it calls, and what it returns. -/
abbrev PublishTree.Runs (ctx : Context) (owner : Owner) (details : Details)
    (tree : PublishTree) :
    Session → List (Visit PublishStep Session) → PublishTree.Result → Session → Prop :=
  tree.nest.Runs (PublishLeaf.calling ctx owner details) Publisher.gathering ctx

/-- **A tree of publishers ends exactly as one of its runs does.** -/
theorem PublishTree.ends_iff {ctx : Context} {owner : Owner} {details : Details}
    {tree : PublishTree} {s s' : Session} {changes : List (Session × Session)} {r : Result} :
    (tree.publisher ctx owner details s).Ends changes r s' ↔
      ∃ visits, tree.Runs ctx owner details s visits r s'
        ∧ changes = visits.flatMap Visit.changes := by
  rw [publisher_eq]
  exact Nest.ends_task_iff (c := PublishLeaf.calling ctx owner details) tree.nest

end ConnectionRelay
