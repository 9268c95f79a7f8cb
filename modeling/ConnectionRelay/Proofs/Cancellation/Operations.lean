/-
  ConnectionRelay.Proofs.Cancellation.Operations
  ──────────────────────────────────────────────
  **EVERY OPERATION STOPS WHEN IT IS CANCELLED.**

  The plans of the operations beside fetching and publishing: configuring a composite,
  reading and writing a secret of a cluster, and storing a composite in a cluster.  Main
  statements:

    • `Session.isCancelled_fire`, `Session.isCancelled_cancel` — to cancel a context is to
      cancel all contexts that were derived from it,
    • `stops_at_once` — an operation that is called under a cancelled context and has
      something to call ends with the Cancelled error,
    • `FetchTree.ends_cancelled`, `PublishTree.ends_cancelled` — and so does a chain whose
      context is cancelled when one of its leaves has returned, with more to come,
    • `ClusterStore.write_cancelled` — a write that is cancelled between its requests makes
      no second one,
    • `obeys_plans` — every operation of the relay obeys its plan, whenever its context or
      one that the context was derived from is cancelled.
-/
import ConnectionRelay.Configurator
import ConnectionRelay.Store.Cluster
import ConnectionRelay.Proofs.Cancellation.Trees
import ConnectionRelay.Proofs.Store.ClusterWrite

namespace ConnectionRelay

open Cluster (Secret)

/-! ## §1. Contexts that are cancelled. -/

namespace Session

variable {ctx : Context} {s : Session}

/-- A token that fires cancels the contexts that have it, and no others. -/
theorem isCancelled_fire_iff {token : Token} :
    ctx.isCancelled (s.fire token) = true ↔ token ∈ ctx.lineage ∨ ctx.isCancelled s = true := by
  show (ctx.lineage.any fun t => (token :: s.fired).contains t) = true
    ↔ _ ∨ (ctx.lineage.any fun t => s.fired.contains t) = true
  simp only [List.any_eq_true, List.contains_iff_mem, List.mem_cons]
  constructor
  · intro ⟨t, ht, hfired⟩
    rcases hfired with rfl | hfired
    · exact .inl ht
    · exact .inr ⟨t, ht, hfired⟩
  · intro h
    rcases h with ht | ⟨t, ht, hfired⟩
    · exact ⟨token, ht, .inl rfl⟩
    · exact ⟨t, ht, .inr hfired⟩

theorem isCancelled_fire {token : Token} (h : token ∈ ctx.lineage) :
    ctx.isCancelled (s.fire token) = true :=
  isCancelled_fire_iff.2 (.inl h)

/-- **Cancelling a context** cancels it and all contexts that were derived from it. -/
theorem isCancelled_cancel {parent : Context} (htoken : parent.token?.isSome = true)
    (hderived : parent.lineage <:+ ctx.lineage) : ctx.isCancelled (s.cancel parent) = true := by
  obtain ⟨token, hhead⟩ := Option.isSome_iff_exists.1 htoken
  have hcancel : s.cancel parent = s.fire token := by
    unfold cancel
    rw [hhead]
  rw [hcancel]
  exact isCancelled_fire (hderived.subset (List.mem_of_head? hhead))

end Session

/-! ## §2. How operations stop. -/

/-- A fetch stops with the Cancelled error, and what it has gathered. -/
def FetchTree.Stopped (s : Session) (p : Progress Session FetchTree.Result) : Prop :=
  ∃ gathered, p = .done (.error ⟨.cancelled, gathered⟩) s

/-- A publish stops with the Cancelled error, and whether it has published anything. -/
def PublishTree.Stopped (s : Session) (p : Progress Session PublishTree.Result) : Prop :=
  ∃ published, p = .done (.error ⟨.cancelled, published⟩) s

/-- Configuring stops with the Cancelled error; a destination just given is taken back. -/
def Configurator.Stopped (st : Session × Resource)
    (p : Progress (Session × Resource) (Except ConnectionError Unit)) : Prop :=
  p = .done (.error .cancelled) st
    ∨ p = .done (.error .cancelled) (st.1, st.2.withDestination none)

/-- A collaborator of the relay stops with a failure that the Cancelled error is at the
root of. -/
def Failure.Stopped {σ α : Type} (s : σ) (p : Progress σ (Except Failure α)) : Prop :=
  p = .done (.error (.relay .cancelled)) s

/-! ## §3. Configuring. -/

namespace Configurator

/-- What configuring does with what the updater has answered. -/
def settle : Except Failure Unit → Plan (Session × Resource) (Except ConnectionError Unit)
  | .error f =>
      .work (fun st => (st.1, st.2.withDestination none))
        (.finish (.error (.ofFailure .updateComposite f)))
  | .ok () => .work (fun st => (st.1.count .configured 1, st.2)) (.finish (.ok ()))

/-- The plan of configuring: a composite that lacks a destination is given one, and
stored. -/
def plan (updater : Updater) (ctx : Context) (composition : CompositionSpec) :
    Plan (Session × Resource) (Except ConnectionError Unit) :=
  .look fun st =>
    if !composition.appliesTo st.2.type then
      .finish (.error (.compositionMismatch composition.compositeType st.2.type))
    else
      match composition.defaultStore, st.2.destination with
      | none, _ => .finish (.ok ())
      | some _, some _ => .finish (.ok ())
      | some store, none =>
          let d := defaultDestination st.2 store
          .work (fun st => ((announce st.2 d store st.1).state, st.2.withDestination (some d)))
            (.drive (updater ctx) settle)

/-- Configuring lets no token fire itself. -/
theorem steady_plan (updater : Updater) (ctx : Context) (composition : CompositionSpec) :
    (plan updater ctx composition).Steady := by
  -- after the update it only counts, or takes the destination back
  have hsettle : ∀ answer, (settle answer).Steady := by
    intro answer
    cases answer with
    | error f => exact ⟨fun st => rfl, trivial⟩
    | ok _ => exact ⟨fun st => rfl, trivial⟩
  intro st
  show Plan.Steady (if _ then _ else _)
  by_cases happlies : (!composition.appliesTo st.2.type) = true
  · rw [if_pos happlies]
    trivial
  · rw [if_neg happlies]
    cases composition.defaultStore with
    | none => trivial
    | some store =>
        cases st.2.destination with
        | some d => trivial
        | none => exact ⟨fun st => rfl, hsettle⟩

theorem obeys_persist (updater : Updater) (ctx : Context) (st : Session × Resource) :
    Obeys ctx Stopped (.drive (updater ctx) settle) st (persist updater ctx st) := by
  unfold persist
  rw [Task.bind_apply]
  refine .run_bind (fun st _ => .inr rfl) fun answer st => ?_
  cases answer with
  | error f => exact .work (.finish _ _)
  | ok _ => exact .work (.finish _ _)

theorem obeys (updater : Updater) (ctx : Context) (composition : CompositionSpec)
    (st : Session × Resource) :
    Obeys ctx Stopped (plan updater ctx composition) st
      (configure updater ctx composition st) := by
  refine .look ?_
  unfold configure
  show Obeys ctx Stopped _ st ((if _ then _ else _ : CompositeTask _) st)
  by_cases happlies : (!composition.appliesTo st.2.type) = true
  · rw [if_pos happlies, if_pos happlies]
    exact .finish _ _
  · rw [if_neg happlies, if_neg happlies]
    cases composition.defaultStore with
    | none => exact .finish _ _
    | some store =>
        cases st.2.destination with
        | some d => exact .finish _ _
        | none =>
            refine .check (fun _ => .inl rfl) fun _ => ?_
            exact .work (obeys_persist updater ctx _)

end Configurator

/-! ## §4. Secrets of a cluster. -/

namespace ClusterStore

variable {α : Type}

/-- The plan of one request, which fails or is followed by more. -/
def planRequest (f : Failure) (request : Operation (Option α))
    (next : α → Plan Session (Except Failure β)) : Plan Session (Except Failure β) :=
  .drive request fun
    | none => .finish (.error f)
    | some a => next a

/-- The plan of a read: one request. -/
def planRead (store : ClusterStore) (owner : Owner) :
    Plan Session (Except Failure (Option Details)) :=
  match owner.destination with
  | none => .finish (.ok none)
  | some d =>
      let ns := store.namespaceOf owner
      planRequest (failure "get" ns d.name)
        (Cluster.Client.read store.cluster (Secret.path ns) d.name Secret.decode)
        fun found => .finish (.ok (found.map Secret.details))

/-- The plan of what a write does with what it has read: one request, or none. -/
def planWriteBack (store : ClusterStore) (ns : String) (d : Destination) (details : Details) :
    Option Secret → Plan Session (Except Failure Unit)
  | none =>
      let secret := (Secret.ofName d.name ns).apply d details
      planRequest (failure "create" ns d.name)
        (Cluster.Client.create store.cluster (Secret.path ns) secret.toJson Secret.decode)
        fun _ => .work (·.log [writtenLine ns .info "Created connection secret" d.name ""])
          (.finish (.ok ()))
  | some secret =>
      let updated := secret.apply d details
      if updated == secret then
        .work (·.log [writtenLine ns .debug "Connection secret" d.name " already up to date"])
          (.finish (.ok ()))
      else
        planRequest (failure "update" ns d.name)
          (Cluster.Client.replace store.cluster (Secret.path ns) d.name updated.toJson
            Secret.decode)
          fun _ => .work (·.log [writtenLine ns .info "Updated connection secret" d.name ""])
            (.finish (.ok ()))

/-- The plan of a write: a read, and what is done with it. -/
def planWrite (store : ClusterStore) (owner : Owner) (details : Details) :
    Plan Session (Except Failure Unit) :=
  match owner.destination with
  | none => .finish (.error (.noDestination owner))
  | some d =>
      let ns := store.namespaceOf owner
      planRequest (failure "get" ns d.name)
        (Cluster.Client.read store.cluster (Secret.path ns) d.name Secret.decode)
        (store.planWriteBack ns d details)

theorem steady_planRequest {f : Failure} {request : Operation (Option α)}
    {next : α → Plan Session (Except Failure β)} (hnext : ∀ a, (next a).Steady) :
    (planRequest f request next).Steady := by
  intro answer
  cases answer with
  | none => trivial
  | some a => exact hnext a

/-- A read lets no token fire itself. -/
theorem steady_planRead (store : ClusterStore) (owner : Owner) :
    (store.planRead owner).Steady := by
  unfold planRead
  cases owner.destination with
  | none => trivial
  | some d => exact steady_planRequest fun found => trivial

/-- A write lets no token fire itself. -/
theorem steady_planWrite (store : ClusterStore) (owner : Owner) (details : Details) :
    (store.planWrite owner details).Steady := by
  unfold planWrite
  cases owner.destination with
  | none => trivial
  | some d =>
      refine steady_planRequest fun existing => ?_
      cases existing with
      | none => exact steady_planRequest fun _ => ⟨fun s => rfl, trivial⟩
      | some secret =>
          unfold planWriteBack
          by_cases hsame : (secret.apply d details == secret) = true
          · simp only [hsame, if_true]
            exact ⟨fun s => rfl, trivial⟩
          · simp only [hsame]
            exact steady_planRequest fun _ => ⟨fun s => rfl, trivial⟩

/-- A request, driven under the context, obeys its plan. -/
theorem obeys_attempt {ctx : Context} {f : Failure} {request : Operation (Option α)}
    {next : α → Plan Session (Except Failure β)}
    {go : α → Session → Progress Session (Except Failure β)}
    (hgo : ∀ a s, Obeys ctx Failure.Stopped (next a) s (go a s)) (s : Session) :
    Obeys ctx Failure.Stopped (planRequest f request next) s
      ((attempt ctx f request s).bind (passOn go)) := by
  unfold attempt
  rw [Task.bind_bind]
  refine .run_bind (fun s _ => rfl) fun answer s => ?_
  cases answer with
  | none => exact .finish _ _
  | some a => exact hgo a s

variable (store : ClusterStore) (ctx : Context)

theorem obeys_read (owner : Owner) (s : Session) :
    Obeys ctx Failure.Stopped (store.planRead owner) s (store.toStore.read ctx owner s) := by
  unfold planRead
  cases hdestination : owner.destination with
  | none =>
      simp only [toStore, hdestination]
      exact .finish _ _
  | some d =>
      rw [read_eq hdestination]
      exact obeys_attempt (fun found s => .finish _ s) s

theorem obeys_writeBack (ns : String) (d : Destination) (details : Details)
    (existing : Option Secret) (s : Session) :
    Obeys ctx Failure.Stopped (store.planWriteBack ns d details existing) s
      (store.writeBack ctx ns d details existing s) := by
  cases existing with
  | none =>
      rw [writeBack, create_eq]
      exact obeys_attempt (fun _ s => .work (.finish _ _)) s
  | some secret =>
      unfold planWriteBack
      by_cases hsame : (secret.apply d details == secret) = true
      · rw [writeBack_same hsame]
        simp only [hsame, if_true]
        exact .work (.finish _ _)
      · simp only [writeBack, hsame]
        rw [if_neg Bool.false_ne_true, if_neg Bool.false_ne_true, replace_eq]
        exact obeys_attempt (fun _ s => .work (.finish _ _)) s

theorem obeys_write (owner : Owner) (details : Details) (s : Session) :
    Obeys ctx Failure.Stopped (store.planWrite owner details) s
      (store.toStore.write ctx owner details s) := by
  unfold planWrite
  cases hdestination : owner.destination with
  | none =>
      simp only [toStore, hdestination]
      exact .finish _ _
  | some d =>
      rw [write_eq hdestination]
      refine obeys_attempt (fun existing s => ?_) s
      -- between its two requests a write looks at the context once more
      unfold goOn
      by_cases hctx : ctx.isCancelled s = true
      · rw [if_pos hctx]
        exact .stop hctx rfl
      · rw [if_neg hctx]
        exact store.obeys_writeBack ctx _ d details existing s

/-- **A write that finds its context cancelled between its requests** makes no second one. -/
theorem write_cancelled {owner : Owner} {d : Destination} {details : Details}
    {existing : Option Secret} {s s' : Session} {changes : List (Session × Session)}
    (hdestination : owner.destination = some d) (hactive : ctx.isCancelled s = false)
    (hends : (Cluster.Client.read store.cluster (Secret.path (store.namespaceOf owner)) d.name
      Secret.decode s).Ends changes (some existing) s')
    (hcancelled : ctx.isCancelled s' = true)
    (hleft : (store.planWriteBack (store.namespaceOf owner) d details existing).Left s') :
    ∃ earlier u, earlier <+: changes
      ∧ (store.toStore.write ctx owner details s).Ends earlier (.error (.relay .cancelled)) u := by
  have hobeys := store.obeys_write ctx owner details s
  have hsteady := store.steady_planWrite owner details
  -- the plan is the read, and after it what is done with what was read
  unfold planWrite at hobeys hsteady
  rw [hdestination] at hobeys hsteady
  obtain ⟨earlier, q, hearlier, hreaches, u, -, rfl⟩ :=
    hobeys.stopped_after_drive hactive hends (hsteady (some existing)) hleft hcancelled
  exact ⟨earlier, u, hearlier, Progress.reaches_done_iff.1 hreaches⟩

end ClusterStore

/-! ## §5. Composites of a cluster. -/

namespace Updater

/-- What storing a composite comes to, once the cluster has stored it. -/
def taken (stored : Cluster.DynamicObject) : Except Failure Unit :=
  match Resource.ofDynamic stored with
  | .error e => .error (.plain e.message)
  | .ok _ => .ok ()

/-- What storing a composite does with what the request has come to. -/
def settle (r : Cluster.ApiResource) (name : String) :
    Except Failure Cluster.DynamicObject → Plan (Session × Resource) (Except Failure Unit)
  | .error f => .finish (.error f)
  | .ok stored => .work (fun st => (takeOver r name stored st).state) (.finish (taken stored))

/-- The plan of storing a composite in a cluster: one request. -/
def plan (cluster : String) : Plan (Session × Resource) (Except Failure Unit) :=
  .look fun st =>
    let r := Cluster.ApiResource.ofType st.2.type
    match st.2.metadata.name, st.2.toDynamic with
    | none, _ => .finish (.error (.plain "composite resource has no name"))
    | some _, .error e => .finish (.error (.plain e.message))
    | some name, .ok object =>
        .drive (Task.onFirst (Cluster.Client.replace cluster (r.path st.2.metadata.ns) name
            object.toJson Cluster.DynamicObject.decode)) fun
          | none => settle r name (.error (unreplaced r name))
          | some stored => settle r name (.ok stored)

/-- Taking over what was stored is not suspended. -/
theorem takeOver_apply (r : Cluster.ApiResource) (name : String) (stored : Cluster.DynamicObject)
    (st : Session × Resource) :
    takeOver r name stored st = .done (taken stored) (takeOver r name stored st).state := by
  unfold takeOver taken
  cases hresource : Resource.ofDynamic stored with
  | error e => rfl
  | ok refreshed => rfl

/-- Storing a composite lets no token fire itself. -/
theorem steady_plan (cluster : String) : (plan cluster).Steady := by
  intro st
  dsimp only
  cases st.2.metadata.name with
  | none => trivial
  | some name =>
      cases st.2.toDynamic with
      | error e => trivial
      | ok object =>
          intro answer
          cases answer with
          | none => trivial
          | some stored =>
              refine ⟨fun st => ?_, trivial⟩
              unfold takeOver
              cases hresource : Resource.ofDynamic stored with
              | error e => rfl
              | ok refreshed => rfl

/-- Replacing an object, driven under the context, obeys its plan. -/
theorem obeys_put {cluster : String} {ctx : Context} {r : Cluster.ApiResource} {ns : Option String}
    {name : String} {object : Cluster.DynamicObject}
    {next : Except Failure Cluster.DynamicObject → Plan (Session × Resource) (Except Failure Unit)}
    {go : Except Failure Cluster.DynamicObject → Session × Resource →
      Progress (Session × Resource) (Except Failure Unit)}
    (hstop : ∀ st, go (.error (.relay .cancelled)) st = .done (.error (.relay .cancelled)) st)
    (hgo : ∀ answer st, Obeys ctx Failure.Stopped (next answer) st (go answer st))
    (st : Session × Resource) :
    Obeys ctx Failure.Stopped
      (.drive (Task.onFirst (Cluster.Client.replace cluster (r.path ns) name object.toJson
          Cluster.DynamicObject.decode)) fun
        | none => next (.error (unreplaced r name))
        | some stored => next (.ok stored)) st
      ((put cluster ctx r ns name object st).bind go) := by
  unfold put
  rw [Task.bind_bind]
  refine .run_bind (fun st _ => hstop st) fun answer st => ?_
  cases answer with
  | none => exact hgo _ st
  | some stored => exact hgo _ st

theorem obeys_ofCluster (cluster : String) (ctx : Context) (st : Session × Resource) :
    Obeys ctx Failure.Stopped (plan cluster) st (ofCluster cluster ctx st) := by
  refine .look ?_
  unfold ofCluster
  rw [Task.bind_apply]
  simp only [CompositeTask.composite, Progress.bind]
  cases hname : st.2.metadata.name with
  | none => exact .finish _ _
  | some name =>
      cases hobject : st.2.toDynamic with
      | error e => exact .finish _ _
      | ok object =>
          refine obeys_put (fun st => rfl) (fun answer st => ?_) st
          cases answer with
          | error f => exact .finish _ _
          | ok stored =>
              simp only
              rw [takeOver_apply]
              exact .work (.finish _ _)

end Updater

/-! ## §6. Chains on their own. -/

/-- A chain of fetchers that nothing follows. -/
theorem FetchTree.obeys_alone (ctx : Context) (parts : List FetchTree) (gathered : Details)
    (owner : Owner) (template : Template) (s : Session) :
    Obeys ctx FetchTree.Stopped (FetchTree.planFrom ctx owner template gathered parts .finish) s
      (Fetcher.chainFrom gathered (FetchTree.fetchers parts) ctx owner template s) := by
  have hobeys : Obeys ctx FetchTree.Stopped
      (FetchTree.planFrom ctx owner template gathered parts .finish) s
      ((Fetcher.chainFrom gathered (FetchTree.fetchers parts) ctx owner template s).bind .done) :=
    FetchTree.obeys_chain parts gathered (fun gathered s _ => ⟨gathered, rfl⟩) .finish s
  rwa [Progress.bind_done] at hobeys

theorem FetchTree.steady_alone (ctx : Context) (parts : List FetchTree) (gathered : Details)
    (owner : Owner) (template : Template) :
    (FetchTree.planFrom ctx owner template gathered parts Plan.finish).Steady :=
  FetchTree.steady_planFrom parts gathered fun _ => trivial

/-- A chain of publishers that nothing follows. -/
theorem PublishTree.obeys_alone (ctx : Context) (parts : List PublishTree) (published : Bool)
    (owner : Owner) (details : Details) (s : Session) :
    Obeys ctx PublishTree.Stopped
      (PublishTree.planFrom ctx owner details published parts .finish) s
      (Publisher.chainFrom published (PublishTree.publishers parts) ctx owner details s) := by
  have hobeys : Obeys ctx PublishTree.Stopped
      (PublishTree.planFrom ctx owner details published parts .finish) s
      ((Publisher.chainFrom published (PublishTree.publishers parts) ctx owner details s).bind
        .done) :=
    PublishTree.obeys_chain parts published (fun published s _ => ⟨published, rfl⟩) .finish s
  rwa [Progress.bind_done] at hobeys

theorem PublishTree.steady_alone (ctx : Context) (parts : List PublishTree) (published : Bool)
    (owner : Owner) (details : Details) :
    (PublishTree.planFrom ctx owner details published parts Plan.finish).Steady :=
  PublishTree.steady_planFrom parts published fun _ => trivial

/-- **A chain of fetchers that comes to a leaf** and finds the context cancelled when the leaf
has returned ends with the Cancelled error, if more leaves were to come. -/
theorem FetchTree.ends_cancelled {ctx : Context} {fetcher : Fetcher} {rest : List FetchTree}
    {owner : Owner} {template : Template} {gathered : Details} {fetched : Option Details}
    {s s' : Session} {changes : List (Session × Session)} (hrest : rest ≠ [])
    (hactive : ctx.isCancelled s = false)
    (hends : (fetcher ctx owner template s).Ends changes (.ok fetched) s')
    (hcancelled : ctx.isCancelled s' = true) :
    ∃ more u, (Fetcher.chainFrom gathered (fetchers (.leaf fetcher :: rest)) ctx owner template
      s).Ends changes (.error ⟨.cancelled, more⟩) u := by
  obtain ⟨part, others, rfl⟩ := List.exists_cons_of_ne_nil hrest
  have hobeys := obeys_alone ctx (.leaf fetcher :: part :: others) gathered owner template s
  have hsteady := steady_alone ctx (part :: others) (gathered.mergeSome fetched) owner template
  -- the next leaf is left to be called
  have hleft : (planFrom ctx owner template (gathered.mergeSome fetched) (part :: others)
      Plan.finish).Left s' := trivial
  obtain ⟨q, hreaches, u, -, more, rfl⟩ :=
    (hobeys.of_enter hactive).stopped_after_call hactive hends hsteady hleft hcancelled
  exact ⟨more, u, Progress.reaches_done_iff.1 hreaches⟩

/-- **A chain of publishers that comes to a leaf** likewise. -/
theorem PublishTree.ends_cancelled {ctx : Context} {publisher : Publisher}
    {rest : List PublishTree} {owner : Owner} {details : Details} {published flag : Bool}
    {s s' : Session} {changes : List (Session × Session)} (hrest : rest ≠ [])
    (hactive : ctx.isCancelled s = false)
    (hends : (publisher ctx owner details s).Ends changes (.ok flag) s')
    (hcancelled : ctx.isCancelled s' = true) :
    ∃ more u, (Publisher.chainFrom published (publishers (.leaf publisher :: rest)) ctx owner
      details s).Ends changes (.error ⟨.cancelled, more⟩) u := by
  obtain ⟨part, others, rfl⟩ := List.exists_cons_of_ne_nil hrest
  have hobeys := obeys_alone ctx (.leaf publisher :: part :: others) published owner details s
  have hsteady := steady_alone ctx (part :: others) (published || flag) owner details
  have hleft : (planFrom ctx owner details (published || flag) (part :: others)
      Plan.finish).Left s' := trivial
  obtain ⟨q, hreaches, u, -, more, rfl⟩ :=
    (hobeys.of_enter hactive).stopped_after_call hactive hends hsteady hleft hcancelled
  exact ⟨more, u, Progress.reaches_done_iff.1 hreaches⟩

/-! ## §7. All operations. -/

/-- **Every operation that is called under a cancelled context** ends at once with the
Cancelled error, if it has anything to call. -/
theorem stops_at_once (ctx : Context) :
    (∀ parts owner template (s : Session), ctx.isCancelled s = true →
        (FetchTree.plan ctx owner template (.chain parts) .finish).Left s →
        Stops ctx FetchTree.Stopped ((FetchTree.chain parts).fetcher ctx owner template s))
      ∧ (∀ parts owner details (s : Session), ctx.isCancelled s = true →
        (PublishTree.plan ctx owner details (.chain parts) .finish).Left s →
        Stops ctx PublishTree.Stopped ((PublishTree.chain parts).publisher ctx owner details s))
      ∧ (∀ updater composition (st : Session × Resource), ctx.isCancelled st = true →
        (Configurator.plan updater ctx composition).Left st →
        Stops ctx Configurator.Stopped (Configurator.configure updater ctx composition st))
      ∧ (∀ (store : ClusterStore) owner (s : Session), ctx.isCancelled s = true →
        (store.planRead owner).Left s →
        Stops ctx Failure.Stopped (store.toStore.read ctx owner s))
      ∧ (∀ (store : ClusterStore) owner details (s : Session), ctx.isCancelled s = true →
        (store.planWrite owner details).Left s →
        Stops ctx Failure.Stopped (store.toStore.write ctx owner details s))
      ∧ ∀ cluster (st : Session × Resource), ctx.isCancelled st = true →
        (Updater.plan cluster).Left st →
        Stops ctx Failure.Stopped (Updater.ofCluster cluster ctx st) := by
  refine ⟨fun parts owner template s => ?_, fun parts owner details s => ?_,
    fun updater composition st => ?_, fun store owner s => ?_, fun store owner details s => ?_,
    fun cluster st => ?_⟩
  · exact (FetchTree.obeys_alone ctx parts .empty owner template s).stopped_of_left
      (FetchTree.steady_alone ctx parts .empty owner template)
  · exact (PublishTree.obeys_alone ctx parts false owner details s).stopped_of_left
      (PublishTree.steady_alone ctx parts false owner details)
  · exact (Configurator.obeys updater ctx composition st).stopped_of_left
      (Configurator.steady_plan updater ctx composition)
  · exact (store.obeys_read ctx owner s).stopped_of_left (store.steady_planRead owner)
  · exact (store.obeys_write ctx owner details s).stopped_of_left
      (store.steady_planWrite owner details)
  · exact (Updater.obeys_ofCluster cluster ctx st).stopped_of_left (Updater.steady_plan cluster)

/-- **Every operation stops when it is cancelled.**  Chains of fetchers and of publishers,
nested in any way, configuring a composite, reading and writing a secret of a cluster, and
storing a composite in a cluster obey their plans from every state: from the moment at
which the context is cancelled, through its own token or through that of a context it was
derived from, no call of the plan is started any more, and with a call still to be made, or
one that is driven still under way, the operation ends with the Cancelled error. -/
theorem obeys_plans (ctx : Context) :
    (∀ token (s : Session), ctx.isCancelled s = true → (ctx.derive token).isCancelled s = true)
      ∧ (∀ {σ ρ : Type} [HasTokens σ] (stopped : σ → Progress σ ρ → Prop) (plan : Plan σ ρ)
          (s : σ) (p : Progress σ ρ), plan.Calls → ctx.isCancelled s = true →
            Obeys ctx stopped plan s p → stopped s p)
      ∧ (∀ {σ β ρ : Type} [HasTokens σ] (stopped : σ → Progress σ ρ → Prop) (next : β → Plan σ ρ)
          (t : Progress σ β) (s : σ) (p q : Progress σ ρ), (∀ b s, t ≠ .done b s) →
            Drives ctx stopped next t p → p.resume? s = some q → ctx.isCancelled s = true →
            stopped s q)
      ∧ (∀ parts owner template s,
          Obeys ctx FetchTree.Stopped (FetchTree.plan ctx owner template (.chain parts) .finish) s
            ((FetchTree.chain parts).fetcher ctx owner template s))
      ∧ (∀ parts owner details s,
          Obeys ctx PublishTree.Stopped
            (PublishTree.plan ctx owner details (.chain parts) .finish) s
            ((PublishTree.chain parts).publisher ctx owner details s))
      ∧ (∀ updater composition st,
          Obeys ctx Configurator.Stopped (Configurator.plan updater ctx composition) st
            (Configurator.configure updater ctx composition st))
      ∧ (∀ (store : ClusterStore) owner s,
          Obeys ctx Failure.Stopped (store.planRead owner) s (store.toStore.read ctx owner s))
      ∧ (∀ (store : ClusterStore) owner details s,
          Obeys ctx Failure.Stopped (store.planWrite owner details) s
            (store.toStore.write ctx owner details s))
      ∧ ∀ cluster st,
          Obeys ctx Failure.Stopped (Updater.plan cluster) st
            (Updater.ofCluster cluster ctx st) := by
  refine ⟨fun token s hctx => ?_,
    fun stopped plan s p hcalls hctx hobeys => hobeys.stopped_of_calls hcalls hctx,
    fun stopped next t s p q hgoing hdrives hresumes hctx =>
      hdrives.stopped_of_resume hgoing hresumes hctx,
    fun parts owner template => FetchTree.obeys_alone ctx parts .empty owner template,
    fun parts owner details => PublishTree.obeys_alone ctx parts false owner details,
    fun updater => Configurator.obeys updater ctx, fun store => store.obeys_read ctx,
    fun store => store.obeys_write ctx, fun cluster => Updater.obeys_ofCluster cluster ctx⟩
  simp only [Context.isCancelled, Context.derive, List.any_cons] at hctx ⊢
  rw [hctx, Bool.or_true]

namespace Sample.Cancelled

/-- A context. -/
def parent : Context := ⟨[0]⟩

/-- A context that was derived from it. -/
def child : Context := parent.derive 1

/-- A composite without a destination. -/
def composite : Resource :=
  { type := ⟨"example.org/v1", "Database"⟩, metadata := { name := some "db", uid := some "u-1" } }

/-- Its composition, with a default store. -/
def composition : CompositionSpec :=
  { compositeType := composite.type, defaultStore := some "default" }

/-- The owner of a secret of a cluster. -/
def owner : Owner := ⟨"db", some "prod", some (.inStore "db-conn" "default")⟩

/-- The store of the secret. -/
def store : ClusterStore := ⟨"kube", "default"⟩

/-- A fetcher that succeeds, while somebody cancels the parent of its context. -/
def leaving : Fetcher := fun _ _ _ s => .done (.ok none) (s.cancel parent)

/-- A fetcher that never returns. -/
def endless : Fetcher := fun _ _ _ => Task.hang

end Sample.Cancelled

open Sample.Cancelled in
/-- The parent of a context is cancelled: while the first part of a chain is at work, before
a composite is configured, and while a read waits for its answer. -/
theorem cancelled_with_parent :
    (∃ gathered s, ((FetchTree.chain [.leaf leaving, .leaf endless]).fetcher child owner {}
        {}).Ends [] (.error ⟨.cancelled, gathered⟩) s)
      ∧ (∃ st, Configurator.configure (fun _ => Task.hang) child composition
          (Session.cancel {} parent, composite) = .done (.error .cancelled) st)
      ∧ (store.toStore.read child owner {}).resume? (Session.cancel {} parent)
          = some (.done (.error (.relay .cancelled)) (Session.cancel {} parent)) := by
  have hcancelled : child.isCancelled (Session.cancel {} parent) = true :=
    Session.isCancelled_cancel rfl (List.suffix_cons 1 [0])
  have hactive : child.isCancelled ({} : Session) = false := rfl
  obtain ⟨-, -, hdriven, hfetch, -, hconfigure, hread, -⟩ := obeys_plans child
  refine ⟨?_, ?_, ?_⟩
  · have hleaf : (leaving child owner {} ({} : Session)).Ends [] (.ok none)
        (Session.cancel {} parent) := .done _ _
    have hsteady := FetchTree.steady_alone child [.leaf endless] .empty owner {}
    have hleft : (FetchTree.planFrom child owner {} .empty [.leaf endless] Plan.finish).Left
        (Session.cancel {} parent) := trivial
    have hobeys := (hfetch [.leaf leaving, .leaf endless] owner {} {}).of_enter hactive
    obtain ⟨q, hreaches, u, -, more, rfl⟩ :=
      hobeys.stopped_after_call hactive hleaf hsteady hleft hcancelled
    exact ⟨more, u, Progress.reaches_done_iff.1 hreaches⟩
  · have hsteady := Configurator.steady_plan (fun _ => Task.hang) child composition
    have hleft : (Configurator.plan (fun _ => Task.hang) child composition).Left
        (Session.cancel {} parent, composite) := trivial
    obtain ⟨st, -, hstopped | hstopped⟩ :=
      (hconfigure (fun _ => Task.hang) composition _).stopped_of_left hsteady hcancelled hleft
    · exact ⟨_, hstopped⟩
    · exact ⟨_, hstopped⟩
  · obtain ⟨q, hresumes⟩ : ∃ q, (store.toStore.read child owner {}).resume?
        (Session.cancel {} parent) = some q := ⟨_, rfl⟩
    rw [hresumes]
    -- the request waits in the queue of its cluster
    have hwaits : ((Cluster.Client.read store.cluster (Secret.path "prod") "db-conn" Secret.decode
        {}).resume? {}).isSome = true := by decide
    refine congrArg some (hdriven Failure.Stopped _ _ _ _ q (fun found s hdone => ?_)
      ((hread store owner {}).drives hactive) hresumes hcancelled)
    have hended := congrArg (fun p => (Progress.resume? p {}).isSome) hdone
    exact absurd (hwaits.symm.trans hended) Bool.noConfusion

end ConnectionRelay
