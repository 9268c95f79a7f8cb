/-
  ConnectionRelay.Proofs.Pipeline.EndToEnd
  ────────────────────────────────────────
  **FROM COMPOSED RESOURCES TO THE SECRET OF THEIR COMPOSITE.**

  The pipeline gives a composite its destination, fetches for every composed resource,
  merges what comes, and publishes it.  Each stage is followed over stores in memory:
  the first and the second leave the secrets alone, and the third writes one of them.
  Main statements:

    • `gather_eq` — the merge has the last contribution for each key,
    • `published_after_pipeline` — the secret of the composite is overwritten by what the
      allow-list allows of the merge.
-/
import ConnectionRelay.Configurator
import ConnectionRelay.Proofs.Pipeline.Contributions
import ConnectionRelay.Proofs.Store.Routing
import ConnectionRelay.Publisher

namespace ConnectionRelay

/-! ## §1. The stages. -/

/-- The details that a read of an owner's secret finds. -/
def SecretStore.found (store : SecretStore) (ctx : Context) (s : Session) (owner : Owner) :
    Details :=
  match (store.read ctx owner s).finish with
  | some (.ok (some details), _) => details
  | _ => .empty

/-- Fetch for every owner and its template in order, and merge what comes. -/
def Fetcher.gatherFrom (fetcher : Fetcher) (ctx : Context) (gathered : Details) :
    List (Owner × Template) → Operation (Except FetchError Details)
  | [] => pure (.ok gathered)
  | pair :: rest => do
      match ← fetcher ctx pair.1 pair.2 with
      | .error e => pure (.error e)
      | .ok fetched => gatherFrom fetcher ctx (gathered.mergeSome fetched) rest

/-- What is fetched for a template when the read of the secret gives this answer. -/
def Fetcher.selected (template : Template) :
    Except Failure (Option Details) → Except FetchError (Option Details)
  | .error f => .error ⟨.ofFailure .fetchSecret f, none⟩
  | .ok payload => (Selection.of (payload.getD .empty) template).result

/-- What a chain of one fetcher makes of its result. -/
def Fetcher.gathered : Except FetchError (Option Details) → Except FetchError (Option Details)
  | .error e => .error ⟨e.source, some (Details.mergeSome .empty e.gathered)⟩
  | .ok fetched => .ok (some (Details.mergeSome .empty fetched))

/-- An updater succeeds and leaves the composite as it was given. -/
structure Updater.Accepts (updater : Updater) (ctx : Context) (composite : Resource)
    (s s' : Session) : Prop where
  finish : (ctx.run (updater ctx) (s, composite)).finish = some (.ok (.ok ()), (s', composite))
  /-- The context is still active afterwards. -/
  active : ctx.isCancelled s' = false
  /-- No store in memory was taken away. -/
  stores : s.secrets.length ≤ s'.secrets.length

/-! ## §2. Configuring. -/

namespace Configurator

variable {updater : Updater} {ctx : Context} {composition : CompositionSpec} {config : String}
  {composite : Resource} {s s' : Session}

/-- The composite with the destination that it is given. -/
def given (composite : Resource) (config : String) : Resource :=
  composite.withDestination (some (defaultDestination composite config))

/-- The session after it was announced that a composite is given a destination. -/
def announced (composite : Resource) (config : String) (s : Session) : Session :=
  (announce composite (defaultDestination composite config) config s).state

theorem persist_of_accepts (h : updater.Accepts ctx composite s s') :
    (persist updater ctx (s, composite)).finish
      = some (.ok (), (s'.count .configured 1, composite)) := by
  unfold persist
  rw [Task.finish_bind, h.finish]
  rfl

/-- A composite without a destination is given one in the default store. -/
theorem configure_of_accepts (hstore : composition.defaultStore = some config)
    (htype : composition.appliesTo composite.type = true) (hnone : composite.destination = none)
    (hactive : ctx.isCancelled s = false)
    (hupdater : updater.Accepts ctx (given composite config) (announced composite config s) s') :
    (configure updater ctx composition (s, composite)).finish
      = some (.ok (), (s'.count .configured 1, given composite config)) := by
  have hassign : (assign updater ctx config (s, composite)).finish
      = some (.ok (), (s'.count .configured 1, given composite config)) :=
    persist_of_accepts hupdater
  have hensure : ctx.ensureActive (s, composite) = .done (.ok ()) (s, composite) :=
    Context.ensureActive_of_active hactive
  unfold configure
  simp only [Task.bind_apply, CompositeTask.composite, Progress.bind, htype, Bool.not_true,
    Bool.false_eq_true, if_false, hstore, hnone]
  show ((ctx.ensureActive (s, composite)).bind _).finish = _
  rw [hensure]
  exact hassign

end Configurator

/-! ## §3. Fetching and merging. -/

theorem Details.get?_mergeSome (d : Details) (more : Option Details) (k : String) :
    (d.mergeSome more).get? k = (more.bind (·.get? k)).or (d.get? k) := by
  cases more with
  | none => rfl
  | some details => exact Dict.get?_merge d details k

/-- A selection that is no error has the contributions of the template. -/
theorem Selection.get?_of_result {payload : Details} {template : Template}
    {fetched : Option Details} (h : (Selection.of payload template).result = .ok fetched)
    (k : String) : fetched.bind (·.get? k) = lastValue k (template.contributions payload) := by
  unfold result at h
  by_cases hunnamed : (Selection.of payload template).unnamed = true
  · rw [if_pos hunnamed] at h
    cases h
  · rw [if_neg hunnamed] at h
    have hpicked := picked_of (Bool.eq_false_iff.2 hunnamed)
    have hlast : (Selection.of payload template).picked.get? k
        = lastValue k (template.contributions payload) := by
      rw [hpicked, Dict.ofList, get?_insertMany, Dict.get?_empty, Option.or_none]
    -- a selection of nothing is passed on as none, which has no key either
    by_cases hempty : (Selection.of payload template).picked.isEmpty = true
    · rw [if_pos hempty] at h
      cases h
      rw [← hlast, (Dict.isEmpty_iff _).1 hempty]
      rfl
    · rw [if_neg hempty] at h
      cases h
      exact hlast

namespace Fetcher

variable {ctx : Context} {owner : Owner} {template : Template} {s : Session}

/-- What is fetched from a store whose read ends at once. -/
theorem ofStore_of_read {store : SecretStore} {answer : Except Failure (Option Details)}
    (hactive : ctx.isCancelled s = false) (hread : store.read ctx owner s = .done answer s) :
    ∃ s', s.Quiet s'
      ∧ ofStore store ctx owner template s = .done (selected template answer) s' := by
  have hrun : ctx.run (store.read ctx owner) s = .done (.ok answer) s := by
    rw [Context.run_of_active hactive, hread]
    rfl
  unfold ofStore
  rw [Task.bind_apply, hrun]
  cases answer with
  | error f => exact ⟨s, .refl s, rfl⟩
  | ok payload => exact ⟨_, quiet_report owner _ s, report_apply owner _ s⟩

/-- A chain of one fetcher that ends at once. -/
theorem chain_of_done {fetcher : Fetcher} {s' : Session}
    {result : Except FetchError (Option Details)} (hactive : ctx.isCancelled s = false)
    (h : fetcher ctx owner template s = .done result s') :
    chain [fetcher] ctx owner template s = .done (gathered result) s' := by
  unfold chain chainFrom
  rw [Task.bind_apply, Context.ensureActive_of_active hactive]
  show (fetcher ctx owner template s).bind _ = _
  rw [h]
  cases result <;> rfl

theorem gatherFrom_of_ok {fetcher : Fetcher} {before : Details} {fetched : Option Details}
    {s' : Session} (rest : List (Owner × Template))
    (h : fetcher ctx owner template s = .done (.ok fetched) s') :
    gatherFrom fetcher ctx before ((owner, template) :: rest) s
      = gatherFrom fetcher ctx (before.mergeSome fetched) rest s' := by
  show (fetcher ctx owner template s).bind _ = _
  rw [h]
  rfl

theorem gatherFrom_of_error {fetcher : Fetcher} {before : Details} {e : FetchError}
    {s' : Session} (rest : List (Owner × Template))
    (h : fetcher ctx owner template s = .done (.error e) s') :
    gatherFrom fetcher ctx before ((owner, template) :: rest) s = .done (.error e) s' := by
  show (fetcher ctx owner template s).bind _ = _
  rw [h]
  rfl

/-- **The merge.** If every fetch succeeds, each key has the last of its contributions. -/
theorem gather_eq {r : StoreRouter} {start s' : Session} {before merged : Details}
    (hmemory : r.InMemory start) (hactive : ctx.isCancelled start = false)
    (pairs : List (Owner × Template)) (hquiet : start.Quiet s)
    (h : (gatherFrom (chain [ofStore r.toStore]) ctx before pairs s).finish
      = some (.ok merged, s')) :
    start.Quiet s' ∧ ∀ k, merged.get? k
      = (lastValue k (pairs.flatMap fun p =>
          p.2.contributions (r.toStore.found ctx start p.1))).or (before.get? k) := by
  -- on the pairs; the secrets stay those of the start, so every read is one of the start
  induction pairs generalizing before s with
  | nil =>
      cases h
      exact ⟨hquiet, fun k => rfl⟩
  | cons pair rest ih =>
      obtain ⟨owner, template⟩ := pair
      obtain ⟨answer, hread⟩ := hmemory.read_eq owner
      have hs : ctx.isCancelled s = false := by rw [hquiet.isCancelled_eq, hactive]
      have hnow : r.toStore.read ctx owner s = .done (answer start.secrets) s := by
        rw [hread, hquiet.secrets]
      obtain ⟨s₁, hquiet₁, hfetch⟩ :
          ∃ s₁, s.Quiet s₁ ∧ ofStore r.toStore ctx owner template s = _ := ofStore_of_read hs hnow
      have hchain := chain_of_done hs hfetch
      -- The fetch succeeded, so the read did, and the declarations named their keys.
      cases hanswer : answer start.secrets with
      | error f =>
          rw [hanswer] at hchain
          rw [gatherFrom_of_error rest hchain] at h
          cases h
      | ok payload =>
          have hfound : r.toStore.found ctx start owner = payload.getD .empty := by
            unfold SecretStore.found
            rw [hread ctx start, hanswer]
            cases payload <;> rfl
          cases hresult : (Selection.of (payload.getD .empty) template).result with
          | error e =>
              simp only [hanswer, selected, hresult] at hchain
              rw [gatherFrom_of_error rest hchain] at h
              cases h
          | ok fetched =>
              simp only [hanswer, selected, hresult] at hchain
              rw [gatherFrom_of_ok rest hchain] at h
              obtain ⟨hquiet', hrest⟩ := ih (hquiet.trans hquiet₁) h
              refine ⟨hquiet', fun k => ?_⟩
              have hpair := Selection.get?_of_result hresult k
              rw [hrest k, List.flatMap_cons, lastValue_append, hfound, ← hpair, Option.or_assoc,
                Details.get?_mergeSome]
              congr 2
              show (Details.mergeSome .empty fetched).get? k = _
              rw [Details.get?_mergeSome, Dict.get?_empty, Option.or_none]

end Fetcher

/-! ## §4. Publishing. -/

namespace Publisher

variable {store : SecretStore} {allowlist : Allowlist} {ctx : Context} {owner : Owner}
  {d : Destination} {details : Details} {s s' : Session}

theorem writeTo_of_write (hactive : ctx.isCancelled s = false)
    (hwrite : store.write ctx owner details s = .done (.ok ()) s') :
    writeTo store d ctx owner details s
      = .done (.ok true) (reportWritten owner d details s').state := by
  have hrun : ctx.run (store.write ctx owner details) s = .done (.ok (.ok ())) s' := by
    rw [Context.run_of_active hactive, hwrite]
    rfl
  unfold writeTo
  rw [Task.bind_apply, hrun]
  rfl

/-- A chain of one publisher whose store accepts the write. -/
theorem chain_of_write (hdestination : owner.destination = some d)
    (hactive : ctx.isCancelled s = false)
    (hwrite : store.write ctx owner (allowlist.restrict details) s = .done (.ok ()) s') :
    ∃ s'', s'.Quiet s''
      ∧ chain [ofStore store allowlist] ctx owner details s = .done (.ok true) s'' := by
  refine ⟨(reportWritten owner d (allowlist.restrict details) s').state, ⟨rfl, rfl⟩, ?_⟩
  have hpublish : ofStore store allowlist ctx owner details
      = writeTo store d ctx owner (allowlist.restrict details) := by
    unfold ofStore
    simp only [hdestination]
  unfold chain chainFrom
  rw [Task.bind_apply, Context.ensureActive_of_active hactive]
  show (ofStore store allowlist ctx owner details s).bind _ = _
  rw [hpublish, writeTo_of_write hactive hwrite]
  rfl

end Publisher

/-! ## §5. The whole pipeline. -/

/-- **The secret of the composite.** A composite without a destination is given one in the
default store of its composition.  If then every fetch succeeds, the merge has the last
contribution for each key, and after it was published a read of the composite's secret finds
what was there before, overwritten by what the allow-list allows of the merge. -/
theorem published_after_pipeline {router : StoreRouter} {updater : Updater} {ctx : Context}
    {composition : CompositionSpec} {config : String} {composite : Resource} {s updated : Session}
    (hstore : composition.defaultStore = some config)
    (htype : composition.appliesTo composite.type = true) (hnone : composite.destination = none)
    (hmemory : router.InMemory s) (hregistered : router.stores.contains config = true)
    (hactive : ctx.isCancelled s = false)
    (hupdater : updater.Accepts ctx (Configurator.given composite config)
      (Configurator.announced composite config s) updated)
    (pairs : List (Owner × Template)) (allowlist : Allowlist) :
    ∃ s₁, updated.Quiet s₁
      ∧ (Configurator.configure updater ctx composition (s, composite)).finish
          = some (.ok (), (s₁, Configurator.given composite config))
      ∧ ∀ merged s₂,
        (Fetcher.gatherFrom (.chain [.ofStore router.toStore]) ctx .empty pairs s₁).finish
            = some (.ok merged, s₂) →
        (∀ k, merged.get? k = lastValue k (pairs.flatMap fun p =>
            p.2.contributions (router.toStore.found ctx s₁ p.1)))
          ∧ ∃ s₃ content,
            ((Publisher.chain [.ofStore router.toStore allowlist]) ctx
                (Configurator.given composite config).owner merged s₂).finish
              = some (.ok true, s₃)
            ∧ (router.toStore.read ctx (Configurator.given composite config).owner s₃).finish
              = some (.ok (some content), s₃)
            ∧ ∀ k, content.get? k = (if allowlist.allows k then merged.get? k else none).or
                ((router.toStore.found ctx s₁
                  (Configurator.given composite config).owner).get? k) := by
  let owner := (Configurator.given composite config).owner
  have hquiet : updated.Quiet (updated.count .configured 1) := ⟨rfl, rfl⟩
  refine ⟨updated.count .configured 1, hquiet,
    Configurator.configure_of_accepts hstore htype hnone hactive hupdater, ?_⟩
  intro merged s₂ hgather
  have hactive₁ : ctx.isCancelled (updated.count .configured 1) = false := by
    rw [hquiet.isCancelled_eq, hupdater.active]
  have hmemory₁ : router.InMemory (updated.count .configured 1) :=
    (hmemory.mono hupdater.stores).quiet hquiet
  obtain ⟨hquiet₂, hmerged⟩ := Fetcher.gather_eq hmemory₁ hactive₁ pairs (.refl _) hgather
  refine ⟨fun k => by rw [hmerged, Dict.get?_empty, Option.or_none], ?_⟩
  -- The destination that was given leads to the default store of the composition.
  obtain ⟨store, hget⟩ : ∃ store, router.stores.get? config = some store :=
    Option.isSome_iff_exists.1 hregistered
  have hroute : router.route (Configurator.defaultDestination composite config) = .ok store := by
    have hconfig : (Configurator.defaultDestination composite config).storeConfig router.default
        = config := rfl
    unfold StoreRouter.route
    simp only [hconfig, hget]
  have hactive₂ : ctx.isCancelled s₂ = false := by rw [hquiet₂.isCancelled_eq, hactive₁]
  have hdestination : owner.destination
      = some (Configurator.defaultDestination composite config) := rfl
  obtain ⟨previous, s', hbefore, hwrite, hafter⟩ :=
    (hmemory₁.quiet hquiet₂).write_read hdestination hroute ctx (allowlist.restrict merged)
  obtain ⟨s₃, hquiet₃, hpublish⟩ := Publisher.chain_of_write hdestination hactive₂ hwrite
  -- No fetch has written, so what is read before the write is what was there at first.
  have hfound : router.toStore.found ctx (updated.count .configured 1) owner
      = previous.getD .empty := by
    obtain ⟨answer, hread⟩ := hmemory₁.read_eq owner
    rw [hread] at hbefore
    have hanswer : answer s₂.secrets = .ok previous := by
      injection hbefore
    unfold SecretStore.found
    rw [hread, ← hquiet₂.secrets, hanswer]
    cases previous <;> rfl
  refine ⟨s₃, (previous.getD .empty).merge (allowlist.restrict merged), ?_, ?_, fun k => ?_⟩
  · rw [hpublish]
    rfl
  · rw [hafter s₃ hquiet₃]
    rfl
  · rw [hfound, Dict.get?_merge]
    show ((merged.filterKeys allowlist.allows).get? k).or _ = _
    rw [Dict.get?_filterKeys]

/-! ## §6. A database and its proxy. -/

namespace Sample

/-- A database that contributes three keys, one of them under another name. -/
def database : Owner × Template :=
  (⟨"rds", none, some (.inStore "rds-conn" "default")⟩,
   { details := [.ofSecretKey "user" (some "username"), .ofSecretKey "endpoint" none,
                 .ofSecretKey "password" none] })

/-- A proxy whose endpoint stands for that of the database. -/
def proxy : Owner × Template :=
  (⟨"proxy", none, some (.inStore "proxy-conn" "default")⟩,
   { details := [.ofSecretKey "proxyEndpoint" (some "endpoint"),
                 .ofSecretKey "reader" (some "endpoint")] })

/-- The composite of both. -/
def composite : Resource :=
  { type := ⟨"example.org/v1", "Database"⟩, metadata := { name := some "db", uid := some "u-1" } }

/-- The composition, whose default store is the only one. -/
def composition : CompositionSpec :=
  { compositeType := composite.type, defaultStore := some "default" }

/-- The router to the only store. -/
def router : StoreRouter := StoreRouter.register {} "default" (.memory 0)

/-- The secrets before: the composite has one already. -/
def start : Session :=
  { secrets := [.ofList
      [("default/rds-conn", .ofList [("user", [1]), ("endpoint", [2]), ("password", [3])]),
       ("default/proxy-conn", .ofList [("proxyEndpoint", [4])]),
       ("default/u-1", .ofList [("endpoint", [5]), ("note", [6])])]] }

/-- An updater that accepts every composite. -/
def updater : Updater := fun _ => pure (.ok ())

/-- The session after the composite was configured. -/
def configured : Session := (Configurator.announced composite "default" start).count .configured 1

end Sample

open Sample in
/-- The composite is configured, both secrets are fetched, and the merge is published: the
proxy's endpoint replaces the old one, and the password is not published. -/
theorem published_after_sample :
    ∃ s₁ merged s₂ s₃ content,
      (Configurator.configure updater ⟨[0]⟩ composition (start, composite)).finish
          = some (.ok (), (s₁, Configurator.given composite "default"))
        ∧ (Fetcher.gatherFrom (.chain [.ofStore router.toStore]) ⟨[0]⟩ .empty [database, proxy]
            s₁).finish = some (.ok merged, s₂)
        ∧ ((Publisher.chain [.ofStore router.toStore ⟨["username", "endpoint"]⟩]) ⟨[0]⟩
            (Configurator.given composite "default").owner merged s₂).finish
            = some (.ok true, s₃)
        ∧ (router.toStore.read ⟨[0]⟩ (Configurator.given composite "default").owner s₃).finish
            = some (.ok (some content), s₃)
        ∧ content.get? "endpoint" = some [4] ∧ content.get? "username" = some [1]
        ∧ content.get? "note" = some [6] ∧ content.get? "password" = none := by
  have hmemory : router.InMemory start := by
    intro config store hget
    have hput : (if config = "default" then some (SecretStore.memory 0) else none)
        = some store := by
      rw [← hget]
      exact (Dict.get?_insert .empty "default" config _).symm
    split at hput
    · cases hput
      exact ⟨0, by decide, rfl⟩
    · cases hput
  have hupdater : Sample.updater.Accepts ⟨[0]⟩ (Configurator.given composite "default")
      (Configurator.announced composite "default" start)
      (Configurator.announced composite "default" start) := ⟨rfl, rfl, Nat.le_refl _⟩
  obtain ⟨s₁, -, hconfigured, hpublished⟩ :=
    published_after_pipeline (show composition.defaultStore = some "default" from rfl)
      (by decide) rfl hmemory (by decide) rfl hupdater [database, proxy]
      ⟨["username", "endpoint"]⟩
  have hs₁ : s₁ = configured :=
    (Prod.mk.inj (Prod.mk.inj (Option.some.inj hconfigured)).2).1.symm
  subst hs₁
  obtain ⟨merged, s₂, hgather⟩ : ∃ merged s₂, (Fetcher.gatherFrom (.chain [.ofStore router.toStore])
      ⟨[0]⟩ .empty [database, proxy] configured).finish = some (.ok merged, s₂) := ⟨_, _, rfl⟩
  obtain ⟨hmerged, s₃, content, hpublish, hread, hcontent⟩ := hpublished merged s₂ hgather
  refine ⟨configured, merged, s₂, s₃, content, hconfigured, hgather, hpublish, hread, ?_, ?_,
    ?_, ?_⟩
  · rw [hcontent, hmerged]
    decide +kernel
  · rw [hcontent, hmerged]
    decide +kernel
  · rw [hcontent, hmerged]
    decide +kernel
  · rw [hcontent, hmerged]
    decide +kernel

end ConnectionRelay
