/-
  ConnectionRelay.Proofs.Cancellation.Trees
  ─────────────────────────────────────────
  **CHAINS OF CHAINS.**

  Fetchers and publishers are nested in trees: a leaf is any fetcher or publisher, or
  that of a store, and an inner node is a chain.  The plan of a tree calls its leaves in
  order; beside that it logs and counts, and lets no token fire (`FetchTree.steady_plan`,
  `PublishTree.steady_plan`).  Main statements: a tree obeys its plan once it is started
  (`FetchTree.obeys`, `PublishTree.obeys`), and a chain from any state on
  (`FetchTree.obeys_chain`, `PublishTree.obeys_chain`).
-/
import ConnectionRelay.Fetcher
import ConnectionRelay.Publisher
import ConnectionRelay.Proofs.Cancellation.Plan
import ConnectionRelay.Proofs.Store.Routing

namespace ConnectionRelay

variable {ρ : Type}

/-! ## §1. Fetchers. -/

/-- Fetchers, nested in chains. -/
inductive FetchTree where
  /-- Any fetcher. -/
  | leaf (fetcher : Fetcher)
  | ofStore (store : SecretStore)
  | chain (parts : List FetchTree)

namespace FetchTree

mutual

/-- The fetcher of a tree. -/
def fetcher : FetchTree → Fetcher
  | .leaf fetcher => fetcher
  | .ofStore store => .ofStore store
  | .chain parts => .chain (fetchers parts)

/-- The fetchers of trees. -/
def fetchers : List FetchTree → List Fetcher
  | [] => []
  | part :: rest => part.fetcher :: fetchers rest

end

/-- The result of a fetch. -/
abbrev Result := Except FetchError (Option Details)

/-- What the fetcher of a store does with what the store has answered. -/
def settle (owner : Owner) (template : Template) (next : Result → Plan Session ρ) :
    Except Failure (Option Details) → Plan Session ρ
  | .error f => next (.error ⟨.ofFailure .fetchSecret f, none⟩)
  | .ok payload =>
      let selection := Selection.of (payload.getD .empty) template
      .work (fun s => (Fetcher.report owner selection s).state) (next selection.result)

mutual

/-- The plan of a tree, with what is done with its result. -/
def plan (ctx : Context) (owner : Owner) (template : Template) :
    FetchTree → (Result → Plan Session ρ) → Plan Session ρ
  | .leaf fetcher, next => .call (fetcher ctx owner template) next
  | .ofStore store, next => .drive (store.read ctx owner) (settle owner template next)
  | .chain parts, next => planFrom ctx owner template .empty parts next

/-- The plan of a chain: each part is started, and the first error ends the chain with
what was gathered. -/
def planFrom (ctx : Context) (owner : Owner) (template : Template) (gathered : Details) :
    List FetchTree → (Result → Plan Session ρ) → Plan Session ρ
  | [], next => next (.ok (some gathered))
  | part :: rest, next =>
      .enter (part.plan ctx owner template fun
        | .ok fetched => planFrom ctx owner template (gathered.mergeSome fetched) rest next
        | .error e => next (.error ⟨e.source, some (gathered.mergeSome e.gathered)⟩))

end

variable {ctx : Context} {owner : Owner} {template : Template}
  {stopped : Session → Progress Session ρ → Prop}

mutual

/-- Beside its calls a tree lets no token fire, if what follows it does not. -/
theorem steady_plan (tree : FetchTree) {next : Result → Plan Session ρ}
    (hnext : ∀ r, (next r).Steady) : (tree.plan ctx owner template next).Steady := by
  -- on the tree; a leaf of a store reports what it has selected, and all else are calls
  cases tree with
  | leaf fetcher => exact hnext
  | ofStore store =>
      intro answer
      cases answer with
      | error f => exact hnext _
      | ok payload => exact ⟨fun s => (Fetcher.quiet_report owner _ s).fired, hnext _⟩
  | chain parts => exact steady_planFrom parts .empty hnext

theorem steady_planFrom (parts : List FetchTree) (gathered : Details)
    {next : Result → Plan Session ρ} (hnext : ∀ r, (next r).Steady) :
    (planFrom ctx owner template gathered parts next).Steady := by
  cases parts with
  | nil => exact hnext _
  | cons part rest =>
      refine steady_plan part fun r => ?_
      cases r with
      | ok fetched => exact steady_planFrom rest _ hnext
      | error e => exact hnext _

end

/-- The fetcher of a store obeys its plan. -/
theorem obeys_ofStore {next : Result → Plan Session ρ}
    {go : Result → Session → Progress Session ρ}
    (hstop : ∀ gathered s, ctx.isCancelled s = true →
      stopped s (go (.error ⟨.cancelled, gathered⟩) s))
    (hnext : ∀ r s, Obeys ctx stopped (next r) s (go r s)) (store : SecretStore) (s : Session) :
    Obeys ctx stopped (.drive (store.read ctx owner) (settle owner template next)) s
      ((Fetcher.ofStore store ctx owner template s).bind go) := by
  unfold Fetcher.ofStore
  rw [Task.bind_bind]
  refine .run_bind (fun s hctx => hstop none s hctx) fun answer s => ?_
  cases answer with
  | error f => exact hnext _ s
  | ok payload =>
      show Obeys ctx stopped _ s ((Fetcher.report owner _ s).bind go)
      rw [Fetcher.report_apply]
      exact .work (hnext _ _)

mutual

/-- A tree that is started while the context is active obeys its plan. -/
theorem obeys (tree : FetchTree) {next : Result → Plan Session ρ}
    {go : Result → Session → Progress Session ρ}
    (hstop : ∀ gathered s, ctx.isCancelled s = true →
      stopped s (go (.error ⟨.cancelled, gathered⟩) s))
    (hnext : ∀ r s, Obeys ctx stopped (next r) s (go r s)) {s : Session}
    (hactive : ctx.isCancelled s = false) :
    Obeys ctx stopped (tree.plan ctx owner template next) s
      ((tree.fetcher ctx owner template s).bind go) := by
  cases tree with
  | leaf fetcher => exact .call_bind hactive hnext
  | ofStore store => exact obeys_ofStore hstop hnext store s
  | chain parts => exact obeys_chain parts .empty hstop hnext s

/-- A chain obeys its plan, whatever it has gathered. -/
theorem obeys_chain (parts : List FetchTree) (gathered : Details)
    {next : Result → Plan Session ρ} {go : Result → Session → Progress Session ρ}
    (hstop : ∀ gathered s, ctx.isCancelled s = true →
      stopped s (go (.error ⟨.cancelled, gathered⟩) s))
    (hnext : ∀ r s, Obeys ctx stopped (next r) s (go r s)) (s : Session) :
    Obeys ctx stopped (planFrom ctx owner template gathered parts next) s
      ((Fetcher.chainFrom gathered (fetchers parts) ctx owner template s).bind go) := by
  -- on the tree: a part is smaller than its chain, and so is the rest of the chain
  cases parts with
  | nil => exact hnext _ s
  | cons part rest =>
      rw [fetchers, Fetcher.chainFrom, Task.bind_bind]
      refine .check (fun hctx => hstop _ s hctx) fun hactive => .enter hactive ?_
      simp only
      rw [Task.bind_bind]
      -- what follows the part is the rest of the chain, or its end at the first error
      refine obeys part (fun more s hctx => ?_) (fun r s => ?_) hactive
      · exact hstop _ s hctx
      · cases r with
        | ok fetched => exact obeys_chain rest _ hstop hnext s
        | error e => exact hnext _ s

end

end FetchTree

/-! ## §2. Publishers. -/

/-- Publishers, nested in chains. -/
inductive PublishTree where
  /-- Any publisher. -/
  | leaf (publisher : Publisher)
  | ofStore (store : SecretStore) (allowlist : Allowlist)
  | chain (parts : List PublishTree)

namespace PublishTree

mutual

/-- The publisher of a tree. -/
def publisher : PublishTree → Publisher
  | .leaf publisher => publisher
  | .ofStore store allowlist => .ofStore store allowlist
  | .chain parts => .chain (publishers parts)

/-- The publishers of trees. -/
def publishers : List PublishTree → List Publisher
  | [] => []
  | part :: rest => part.publisher :: publishers rest

end

/-- The result of a publish. -/
abbrev Result := Except PublishError Bool

/-- What the publisher of a store does with what the store has answered. -/
def settle (owner : Owner) (d : Destination) (details : Details)
    (next : Result → Plan Session ρ) : Except Failure Unit → Plan Session ρ
  | .error f =>
      let e := ConnectionError.ofFailure .publish f
      .work (fun s => (Publisher.countFailure e s).state) (next (.error ⟨e, false⟩))
  | .ok () =>
      .work (fun s => (Publisher.reportWritten owner d details s).state) (next (.ok true))

/-- The plan of the publisher of a store: an owner without a destination is only logged. -/
def planStore (ctx : Context) (owner : Owner) (details : Details) (store : SecretStore)
    (allowlist : Allowlist) (next : Result → Plan Session ρ) : Plan Session ρ :=
  match owner.destination with
  | none => .work (fun s => (Publisher.logUnwanted owner s).state) (next (.ok false))
  | some d =>
      .drive (store.write ctx owner (allowlist.restrict details))
        (settle owner d (allowlist.restrict details) next)

mutual

/-- The plan of a tree, with what is done with its result. -/
def plan (ctx : Context) (owner : Owner) (details : Details) :
    PublishTree → (Result → Plan Session ρ) → Plan Session ρ
  | .leaf publisher, next => .call (publisher ctx owner details) next
  | .ofStore store allowlist, next => planStore ctx owner details store allowlist next
  | .chain parts, next => planFrom ctx owner details false parts next

/-- The plan of a chain: each part is started, and the first error ends the chain, with
whether anything was published. -/
def planFrom (ctx : Context) (owner : Owner) (details : Details) (published : Bool) :
    List PublishTree → (Result → Plan Session ρ) → Plan Session ρ
  | [], next => next (.ok published)
  | part :: rest, next =>
      .enter (part.plan ctx owner details fun
        | .ok flag => planFrom ctx owner details (published || flag) rest next
        | .error e => next (.error ⟨e.source, published || e.published⟩))

end

variable {ctx : Context} {owner : Owner} {details : Details}
  {stopped : Session → Progress Session ρ → Prop}

/-- A failed publish is counted at most. -/
theorem fired_countFailure (e : ConnectionError) (s : Session) :
    (Publisher.countFailure e s).state.fired = s.fired := by
  unfold Publisher.countFailure
  by_cases h : e.isCancelled = true
  · rw [if_pos h]
    rfl
  · rw [if_neg h]
    rfl

theorem steady_planStore (store : SecretStore) (allowlist : Allowlist)
    {next : Result → Plan Session ρ} (hnext : ∀ r, (next r).Steady) :
    (planStore ctx owner details store allowlist next).Steady := by
  unfold planStore
  cases owner.destination with
  | none => exact ⟨fun s => rfl, hnext _⟩
  | some d =>
      intro answer
      cases answer with
      | error f => exact ⟨fired_countFailure _, hnext _⟩
      | ok _ => exact ⟨fun s => rfl, hnext _⟩

mutual

/-- Beside its calls a tree lets no token fire, if what follows it does not. -/
theorem steady_plan (tree : PublishTree) {next : Result → Plan Session ρ}
    (hnext : ∀ r, (next r).Steady) : (tree.plan ctx owner details next).Steady := by
  -- likewise; a leaf of a store logs and counts
  cases tree with
  | leaf publisher => exact hnext
  | ofStore store allowlist => exact steady_planStore store allowlist hnext
  | chain parts => exact steady_planFrom parts false hnext

theorem steady_planFrom (parts : List PublishTree) (published : Bool)
    {next : Result → Plan Session ρ} (hnext : ∀ r, (next r).Steady) :
    (planFrom ctx owner details published parts next).Steady := by
  cases parts with
  | nil => exact hnext _
  | cons part rest =>
      refine steady_plan part fun r => ?_
      cases r with
      | ok flag => exact steady_planFrom rest _ hnext
      | error e => exact hnext _

end

/-- The publisher of a store obeys its plan. -/
theorem obeys_ofStore {next : Result → Plan Session ρ}
    {go : Result → Session → Progress Session ρ}
    (hstop : ∀ published s, ctx.isCancelled s = true →
      stopped s (go (.error ⟨.cancelled, published⟩) s))
    (hnext : ∀ r s, Obeys ctx stopped (next r) s (go r s)) (store : SecretStore)
    (allowlist : Allowlist) (s : Session) :
    Obeys ctx stopped (planStore ctx owner details store allowlist next) s
      ((Publisher.ofStore store allowlist ctx owner details s).bind go) := by
  unfold planStore Publisher.ofStore
  cases owner.destination with
  | none => exact .work (hnext _ _)
  | some d =>
      simp only
      unfold Publisher.writeTo
      rw [Task.bind_bind]
      refine .run_bind (fun s hctx => hstop false s hctx) fun answer s => ?_
      cases answer with
      | ok _ => exact .work (hnext _ _)
      | error f =>
          simp only
          rw [Task.bind_bind, Publisher.countFailure_apply]
          exact .work (hnext _ _)

mutual

/-- A tree that is started while the context is active obeys its plan. -/
theorem obeys (tree : PublishTree) {next : Result → Plan Session ρ}
    {go : Result → Session → Progress Session ρ}
    (hstop : ∀ published s, ctx.isCancelled s = true →
      stopped s (go (.error ⟨.cancelled, published⟩) s))
    (hnext : ∀ r s, Obeys ctx stopped (next r) s (go r s)) {s : Session}
    (hactive : ctx.isCancelled s = false) :
    Obeys ctx stopped (tree.plan ctx owner details next) s
      ((tree.publisher ctx owner details s).bind go) := by
  cases tree with
  | leaf publisher => exact .call_bind hactive hnext
  | ofStore store allowlist => exact obeys_ofStore hstop hnext store allowlist s
  | chain parts => exact obeys_chain parts false hstop hnext s

/-- A chain obeys its plan, whether it has published anything or not. -/
theorem obeys_chain (parts : List PublishTree) (published : Bool)
    {next : Result → Plan Session ρ} {go : Result → Session → Progress Session ρ}
    (hstop : ∀ published s, ctx.isCancelled s = true →
      stopped s (go (.error ⟨.cancelled, published⟩) s))
    (hnext : ∀ r s, Obeys ctx stopped (next r) s (go r s)) (s : Session) :
    Obeys ctx stopped (planFrom ctx owner details published parts next) s
      ((Publisher.chainFrom published (publishers parts) ctx owner details s).bind go) := by
  cases parts with
  | nil => exact hnext _ s
  | cons part rest =>
      rw [publishers, Publisher.chainFrom, Task.bind_bind]
      refine .check (fun hctx => hstop _ s hctx) fun hactive => .enter hactive ?_
      simp only
      rw [Task.bind_bind]
      refine obeys part (fun more s hctx => ?_) (fun r s => ?_) hactive
      · exact hstop _ s hctx
      · cases r with
        | ok flag => exact obeys_chain rest _ hstop hnext s
        | error e => exact hnext _ s

end

end PublishTree

end ConnectionRelay
