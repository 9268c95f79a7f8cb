/-
  ConnectionRelay.Proofs.Configuring.Apart
  ────────────────────────────────────────
  **WHOSE SECRETS DEFAULT DESTINATIONS NAME.**

  The secret of a default destination is named after the unique id of its composite, and
  after nothing else.  So composites of one namespace with different unique ids never share
  a secret; but all those that have no unique id yet share one, whose name is empty.  Main
  statements:

    • `named_by_uid` — the names, and what a publish for one composite leaves alone,
    • `unstored_members_share` — two composites without a unique id.
-/
import ConnectionRelay.Proofs.Configuring.Call
import ConnectionRelay.Proofs.Store.ClusterAnswers
import ConnectionRelay.Proofs.Store.Isolation

namespace ConnectionRelay

/-! ## §1. Composites that were configured. -/

/-- However it ends, driven under any context, the updater leaves composites as they are. -/
def Updater.KeepsComposites (updater : Updater) : Prop :=
  ∀ (ctx : Context) (st st' : Session × Resource) changes outcome,
    (ctx.run (updater ctx) st).Ends changes outcome st' → CompositeTask.LeftAlone changes →
      st'.2 = st.2

/-- A call with such an updater has configured a composite without a destination, by a
composition with this default store. -/
def Configured (store : String) (before after : Resource) : Prop :=
  before.destination = none ∧ ∃ (updater : Updater) (ctx : Context) (composition : CompositionSpec)
      (s s' : Session) (changes : List ((Session × Resource) × (Session × Resource))),
    updater.KeepsComposites ∧ composition.defaultStore = some store
      ∧ (Configurator.configure updater ctx composition (s, before)).Ends changes (.ok ())
          (s', after)
      ∧ CompositeTask.LeftAlone changes

/-- It has got its default destination, and nothing else. -/
theorem Configured.eq_given {store : String} {before after : Resource}
    (h : Configured store before after) : after = Configurator.given before store := by
  obtain ⟨hnone, updater, ctx, composition, s, s', changes, hkeeps, hstore, hends, halone⟩ := h
  obtain ⟨finish, hrun, hafter⟩ := Configurator.stored_of_ok hends hstore hnone
  have hsame : after = finish.2 := congrArg Prod.snd hafter
  rw [hsame, hkeeps _ _ _ _ _ hrun halone]
  rfl

/-! ## §2. What a publish leaves alone. -/

/-- Whatever is published for one owner, another one reads what it has read before. -/
def SecretStore.LeavesAlone (store : SecretStore) (o o' : Owner) : Prop :=
  ∀ allowlist ctx ctx' details s result s',
    (Publisher.ofStore store allowlist ctx o details s).finish = some (result, s') →
      (store.read ctx' o' s').finish.map Prod.fst = (store.read ctx' o' s).finish.map Prod.fst

namespace SecretStore

open MemoryStore

variable {o o' : Owner} {d d' : Destination}

/-- A publish to a store in memory changes what is kept under the key of the owner only. -/
theorem get?_of_publish {id : Nat} (hd : o.destination = some d) {allowlist : Allowlist}
    {ctx : Context} {details : Details} {s s' : Session} {result : Except PublishError Bool}
    (h : (Publisher.ofStore (memory id) allowlist ctx o details s).finish = some (result, s'))
    {key : String} (hkey : key ≠ keyFor o d) :
    (s'.secretsOf id).get? key = (s.secretsOf id).get? key := by
  have hpublish : Publisher.ofStore (memory id) allowlist ctx o details
      = Publisher.writeTo (memory id) d ctx o (allowlist.restrict details) := by
    unfold Publisher.ofStore
    simp only [hd]
  rw [hpublish] at h
  rcases Bool.eq_false_or_eq_true (ctx.isCancelled s) with hcancelled | hactive
  · unfold Publisher.writeTo at h
    rw [Task.bind_apply, Context.run_of_isCancelled hcancelled] at h
    obtain ⟨-, rfl⟩ := Prod.mk.inj (Option.some.inj h)
    rfl
  · rw [Publisher.writeTo_of_write hactive (memory_write_some id ctx s (key?_eq hd) _)] at h
    obtain ⟨-, rfl⟩ := Prod.mk.inj (Option.some.inj h)
    let written := put (s.secretsOf id) (keyFor o d) (allowlist.restrict details)
    show ((s.setSecrets id written).secretsOf id).get? key = _
    by_cases hid : id < s.secrets.length
    · rw [Session.secretsOf_setSecrets hid, get?_put, if_neg hkey]
    · -- a store that is not there is not written to
      have hsame : s.setSecrets id written = s := by
        unfold Session.setSecrets
        rw [List.set_eq_of_length_le (Nat.le_of_not_lt hid)]
      rw [hsame]

/-- In one store config and one namespace, keys tell names apart. -/
theorem name_eq_of_keyFor
    (hconfig : d.storeConfig defaultStoreConfig = d'.storeConfig defaultStoreConfig)
    (hns : o.ns = o'.ns) (h : keyFor o d = keyFor o' d') : d.name = d'.name := by
  unfold keyFor restFor at h
  rw [hconfig, hns] at h
  have hlist := congrArg String.toList h
  cases hnamespace : o'.ns with
  | none =>
      simp only [hnamespace, String.toList_append, List.append_assoc] at hlist
      exact String.toList_inj.1 (List.append_cancel_left (List.append_cancel_left hlist))
  | some ns =>
      simp only [hnamespace, String.toList_append, List.append_assoc] at hlist
      exact String.toList_inj.1 (List.append_cancel_left (List.append_cancel_left
        (List.append_cancel_left (List.append_cancel_left hlist))))

theorem leavesAlone_memory (id : Nat) (hd : o.destination = some d) (hd' : o'.destination = some d')
    (hkey : keyFor o' d' ≠ keyFor o d) : (memory id).LeavesAlone o o' := by
  intro allowlist ctx ctx' details s result s' h
  rw [finish_memory_read hd', finish_memory_read hd', Option.map_some, Option.map_some,
    get?_of_publish hd h hkey]

/-- A router leaves alone what the store behind it does. -/
theorem leavesAlone_router {router : StoreRouter} {store : SecretStore}
    (hd : o.destination = some d) (hd' : o'.destination = some d')
    (hroute : router.route d = .ok store) (hroute' : router.route d' = .ok store)
    (h : store.LeavesAlone o o') :
    router.toStore.LeavesAlone o o' := by
  intro allowlist ctx ctx' details s result s' hpublish
  have hwrite : ∀ ctx details, router.toStore.write ctx o details = store.write ctx o details := by
    intro ctx details
    simp only [StoreRouter.toStore, hd, hroute]
  have hread : ∀ ctx, router.toStore.read ctx o' = store.read ctx o' := by
    intro ctx
    simp only [StoreRouter.toStore, hd', hroute']
  rw [hread]
  refine h allowlist ctx ctx' details s result s' ?_
  rw [← hpublish]
  unfold Publisher.ofStore Publisher.writeTo
  simp only [hd, hwrite]

end SecretStore

namespace ClusterStore

open Cluster

variable {store : ClusterStore} {o o' : Owner} {d d' : Destination} {ctx ctx' : Context}
  {s : Session} {existing existing' : Option Secret} {mem mem' : Option Details}

/-- Different names have different places. -/
theorem place_ne {ns name name' : String} (h : name' ≠ name) :
    Secret.place ns name' ≠ Secret.place ns name := by
  intro hplace
  have hlist := congrArg String.toList hplace
  unfold Secret.place at hlist
  simp only [String.toList_append, List.append_assoc] at hlist
  exact h (String.toList_inj.1 (List.append_cancel_left (List.append_cancel_left hlist)))

/-- A write to a quiet cluster succeeds, and other owners read what they have read before. -/
theorem write_leavesAlone (hd : o.destination = some d) (hd' : o'.destination = some d')
    (hsame : store.namespaceOf o' = store.namespaceOf o) (hne : d'.name ≠ d.name)
    (hns : isName (store.namespaceOf o) = true) (hname : isName d.name = true)
    (hname' : isName d'.name = true) (hactive : ctx.isCancelled s = false)
    (hactive' : ctx'.isCancelled s = false) (hscript : (s.serverOf store.cluster).script = [])
    (hkeeping : Keeping existing mem
      ((s.serverOf store.cluster).objects.get? (Secret.place (store.namespaceOf o) d.name)))
    (hkeeping' : Keeping existing' mem'
      ((s.serverOf store.cluster).objects.get? (Secret.place (store.namespaceOf o') d'.name)))
    (details : Details) :
    ∃ s', (store.toStore.write ctx o details s).finish = some (.ok (), s')
      ∧ (store.toStore.read ctx' o' s').finish.map Prod.fst
          = (store.toStore.read ctx' o' s).finish.map Prod.fst := by
  obtain ⟨s', hwrite, hserves, -⟩ :=
    write_keeping hd hns hname hactive hscript details hkeeping
  refine ⟨s', hwrite, ?_⟩
  have hns' : isName (store.namespaceOf o') = true := by rw [hsame, hns]
  have hplace : Secret.place (store.namespaceOf o') d'.name
      ≠ Secret.place (store.namespaceOf o) d.name := by
    rw [hsame]
    exact place_ne hne
  have hafter := hkeeping'
  rw [← hserves.elsewhere _ hplace] at hafter
  obtain ⟨t, -, -, hbefore⟩ := read_keeping hd' hns' hname' hactive' hscript hkeeping'
  obtain ⟨t', -, -, hread⟩ := read_keeping hd' hns' hname'
    (by rw [hserves.isCancelled_eq, hactive']) (by rw [hserves.script, hscript]) hafter
  rw [hbefore, hread]
  rfl

end ClusterStore

/-! ## §3. Names. -/

/-- What is written for one owner does not touch what another one reads: in memory, behind a
router that has a store for their store config, and in a quiet cluster. -/
structure Apart (config : String) (o o' : Owner) : Prop where
  memory : ∀ id, (SecretStore.memory id).LeavesAlone o o'
  router : ∀ (router : StoreRouter) (store : SecretStore), router.stores.get? config = some store →
    store.LeavesAlone o o' → router.toStore.LeavesAlone o o'
  cluster : ∀ (store : ClusterStore) (d d' : Destination) (ctx ctx' : Context) (s : Session)
    (existing existing' : Option Cluster.Secret) (mem mem' : Option Details) (details : Details),
    o.destination = some d → o'.destination = some d' →
    Cluster.isName (store.namespaceOf o) = true → Cluster.isName d.name = true →
    Cluster.isName d'.name = true → ctx.isCancelled s = false → ctx'.isCancelled s = false →
    (s.serverOf store.cluster).script = [] →
    Keeping existing mem ((s.serverOf store.cluster).objects.get?
      (Cluster.Secret.place (store.namespaceOf o) d.name)) →
    Keeping existing' mem' ((s.serverOf store.cluster).objects.get?
      (Cluster.Secret.place (store.namespaceOf o') d'.name)) →
    ∃ s', (store.toStore.write ctx o details s).finish = some (.ok (), s')
      ∧ (store.toStore.read ctx' o' s').finish.map Prod.fst
          = (store.toStore.read ctx' o' s).finish.map Prod.fst

/-- Owners of one namespace with default destinations of different names are apart. -/
theorem apart_of_name_ne {r r' : Resource} (config : String)
    (hns : r.metadata.ns = r'.metadata.ns) (hne : r'.uid ≠ r.uid) :
    Apart config (Configurator.given r config).owner (Configurator.given r' config).owner := by
  have hd : (Configurator.given r config).owner.destination = some (.inStore r.uid config) := rfl
  have hd' : (Configurator.given r' config).owner.destination = some (.inStore r'.uid config) := rfl
  refine ⟨fun id => ?_, fun router store hget h => ?_, ?_⟩
  · exact SecretStore.leavesAlone_memory id hd hd' fun hkey =>
      hne (SecretStore.name_eq_of_keyFor (by rfl) hns.symm hkey)
  · have hroute : ∀ name, router.route (.inStore name config) = .ok store := by
      intro name
      unfold StoreRouter.route
      simp only [Destination.storeConfig, Destination.inStore, hget]
    exact SecretStore.leavesAlone_router hd hd' (hroute r.uid) (hroute r'.uid) h
  · intro store d d' ctx ctx' s existing existing' mem mem' details hdestination hdestination' hn
      hname hname' hactive hactive' hscript hkeeping hkeeping'
    obtain rfl : d = .inStore r.uid config := Option.some.inj (hdestination.symm.trans hd)
    obtain rfl : d' = .inStore r'.uid config := Option.some.inj (hdestination'.symm.trans hd')
    have hsame : store.namespaceOf (Configurator.given r' config).owner
        = store.namespaceOf (Configurator.given r config).owner := by
      show r'.metadata.ns.getD _ = r.metadata.ns.getD _
      rw [hns]
    exact ClusterStore.write_leavesAlone hd hd' hsame hne hn hname hname' hactive hactive' hscript
      hkeeping hkeeping' details

/-- A composite has an empty name for its secret exactly if it has no unique id. -/
theorem uid_eq_empty_iff {r : Resource} (hfull : r.metadata.uid ≠ some "") :
    r.uid = "" ↔ r.metadata.uid = none := by
  unfold Resource.uid
  cases huid : r.metadata.uid with
  | none => exact ⟨fun _ => rfl, fun _ => rfl⟩
  | some uid =>
      rw [huid] at hfull
      exact ⟨fun hempty => absurd (congrArg some hempty) hfull, nofun⟩

/-- **Default destinations are named by unique id.**  Let unique ids be different and not
empty.  Two composites of one namespace that were configured with the same default store have
the destinations named after their unique ids.  A name is empty exactly if the composite has
no unique id, and the names are the same exactly if neither has one; otherwise what is
written for one composite does not touch what the other reads. -/
theorem named_by_uid {store : String} {r₁ r₁' r₂ r₂' : Resource} (h₁ : Configured store r₁ r₁')
    (h₂ : Configured store r₂ r₂') (hns : r₁.metadata.ns = r₂.metadata.ns)
    (hunique : ∀ uid, r₁.metadata.uid = some uid → r₂.metadata.uid ≠ some uid)
    (hfull₁ : r₁.metadata.uid ≠ some "") (hfull₂ : r₂.metadata.uid ≠ some "") :
    r₁'.destination = some (.inStore r₁.uid store)
      ∧ r₂'.destination = some (.inStore r₂.uid store)
      ∧ (r₁.uid = "" ↔ r₁.metadata.uid = none)
      ∧ (r₂.uid = "" ↔ r₂.metadata.uid = none)
      ∧ (r₁.uid = r₂.uid ↔ r₁.metadata.uid = none ∧ r₂.metadata.uid = none)
      ∧ (r₁.uid ≠ r₂.uid → Apart store r₁'.owner r₂'.owner ∧ Apart store r₂'.owner r₁'.owner) := by
  obtain rfl := h₁.eq_given
  obtain rfl := h₂.eq_given
  refine ⟨rfl, rfl, uid_eq_empty_iff hfull₁, uid_eq_empty_iff hfull₂, ?_, fun hne =>
    ⟨apart_of_name_ne store hns hne.symm, apart_of_name_ne store hns.symm hne⟩⟩
  constructor
  · intro hsame
    cases huid : r₁.metadata.uid with
    | none =>
        have hempty : r₂.uid = "" := by rw [← hsame, (uid_eq_empty_iff hfull₁).2 huid]
        exact ⟨rfl, (uid_eq_empty_iff hfull₂).1 hempty⟩
    | some uid =>
        have hfirst : r₁.uid = uid := by rw [Resource.uid, huid, Option.getD_some]
        cases huid' : r₂.metadata.uid with
        | none =>
            have hempty : r₁.uid = "" := by rw [hsame, (uid_eq_empty_iff hfull₂).2 huid']
            rw [(uid_eq_empty_iff hfull₁).1 hempty] at huid
            cases huid
        | some uid' =>
            have hsecond : r₂.uid = uid' := by rw [Resource.uid, huid', Option.getD_some]
            rw [hfirst, hsecond] at hsame
            exact absurd (hsame ▸ huid') (hunique uid huid)
  · rintro ⟨huid, huid'⟩
    rw [(uid_eq_empty_iff hfull₁).2 huid, (uid_eq_empty_iff hfull₂).2 huid']

/-! ## §4. Databases of one team. -/

namespace Sample

/-- A database of the team. -/
def member (name : String) (uid : Option String) : Resource :=
  { type := composite.type, metadata := { name := some name, ns := some "team", uid } }

theorem keepsComposites_updater : Sample.updater.KeepsComposites := by
  intro ctx st st' changes outcome hends _
  unfold Context.run at hends
  split at hends
  · obtain ⟨-, -, rfl⟩ := Progress.ends_done_iff.1 hends
    rfl
  · obtain ⟨-, -, rfl⟩ := Progress.ends_done_iff.1 hends
    rfl

/-- It can be configured with or without a unique id. -/
theorem configured_member (name : String) (uid : Option String) :
    Configured "default" (member name uid) (Configurator.given (member name uid) "default") := by
  have haccepts : Sample.updater.Accepts ⟨[0]⟩ (Configurator.given (member name uid) "default")
      (Configurator.announced (member name uid) "default" {})
      (Configurator.announced (member name uid) "default" {}) := ⟨rfl, rfl, Nat.le_refl _⟩
  have hstore : composition.defaultStore = some "default" := rfl
  have hsame : composition.appliesTo composite.type = true := by decide
  have htype : composition.appliesTo (member name uid).type = true := hsame
  have hfinish := Configurator.configure_of_accepts hstore htype rfl rfl haccepts
  obtain ⟨changes, hends, hquiet⟩ := Progress.Ends.of_finish hfinish
  exact ⟨rfl, Sample.updater, ⟨[0]⟩, composition, {}, _, changes, keepsComposites_updater, rfl,
    hends, fun change hmem => congrArg Prod.snd (hquiet change hmem)⟩

end Sample

open Sample in
/-- Two databases with unique ids do not touch each other's secrets. -/
theorem stored_members_apart :
    Apart "default" (Configurator.given (member "orders" (some "u-1")) "default").owner
      (Configurator.given (member "reports" (some "u-2")) "default").owner := by
  have hnamed := named_by_uid (configured_member "orders" (some "u-1"))
    (configured_member "reports" (some "u-2")) rfl
    (by rintro uid ⟨⟩; decide) (by decide) (by decide)
  exact (hnamed.2.2.2.2.2 (by decide)).1

open Sample in
/-- **Two databases without unique ids.**  Both are configured, with destinations of the same,
empty name; so one of them reads the password that was published for the other. -/
theorem unstored_members_share :
    Configured "default" (member "orders" none)
        (Configurator.given (member "orders" none) "default")
      ∧ Configured "default" (member "reports" none)
        (Configurator.given (member "reports" none) "default")
      ∧ (Configurator.given (member "orders" none) "default").destination
        = (Configurator.given (member "reports" none) "default").destination
      ∧ (Configurator.given (member "orders" none) "default").destination
        = some (.inStore "" "default")
      ∧ ∃ s content, (Publisher.ofStore (.memory 0) ⟨[]⟩ ⟨[0]⟩
            (Configurator.given (member "reports" none) "default").owner
            (.ofList [("password", [7])]) { secrets := [.empty] }).finish = some (.ok true, s)
        ∧ ((SecretStore.memory 0).read ⟨[0]⟩
            (Configurator.given (member "orders" none) "default").owner s).finish
          = some (.ok (some content), s)
        ∧ content.get? "password" = some [7] :=
  ⟨configured_member "orders" none, configured_member "reports" none, rfl, rfl, _, _, rfl, rfl,
    by decide +kernel⟩

end ConnectionRelay
