/-
  ConnectionRelay.Proofs.Chains.PublishedFlag
  ───────────────────────────────────────────
  **WHETHER ANYTHING WAS PUBLISHED.**

  A publish says whether anything was published, with an error or without.  In a tree of
  chains over stores it says so exactly if one of its writes has succeeded, through the ends
  of all chains: at their last publisher, at the first error, and at a cancelled context
  between two publishers.  A store that changes the secrets in memory only by succeeding has
  left them alone if nothing was published.  Main statements:

    • `PublishTree.flag_iff` — the flag of a run,
    • `PublishTree.spared_of_flag` — what a run without the flag has changed,
    • `published_flag_is_exact` — both, for every tree over such stores.
-/
import ConnectionRelay.Proofs.Chains.Leaves
import ConnectionRelay.Proofs.Store.SparingStores

namespace ConnectionRelay

/-! ## §1. Visits that spare a part of the state. -/

/-- If each visit spares a part of the state, so do all of them together. -/
theorem Trail.spared {κ σ τ : Type} {part : σ → τ} {visits : List (Visit κ σ)} {s s' : σ}
    (h : Trail s visits s')
    (hvisits : ∀ visit ∈ visits,
      Spared part (Progress.turns visit.before visit.changes visit.after)) :
    Spared part (Progress.turns s (visits.flatMap Visit.changes) s') := by
  induction h with
  | nil s => exact List.forall_mem_singleton.2 rfl
  | cons _ ih =>
      obtain ⟨hfirst, hrest⟩ := List.forall_mem_cons.1 hvisits
      exact hfirst.append (ih hrest)

/-! ## §2. The flag. -/

/-- The call was one of a store whose write has succeeded. -/
def PublishStep.Succeeded (step : PublishStep) : Prop :=
  ∃ store allowlist, step = .wrote store allowlist (.ok (.ok ()))

namespace PublishTree

/-- Whether anything was published, by the result of a publish. -/
def flag : Result → Bool
  | .ok published => published
  | .error e => e.published

theorem flag_eq (r : Result) : flag r = Publisher.gathering.brings r := by
  cases r <;> rfl

/-- Something was published if one of the calls has published something. -/
theorem sum_iff (visits : List (Visit PublishStep Session)) :
    Publisher.gathering.sum PublishStep.returned visits = true
      ↔ ∃ visit ∈ visits, flag visit.step.returned = true := by
  induction visits with
  | nil => simp [Gathering.sum, Publisher.gathering]
  | cons visit rest ih =>
      show (Publisher.gathering.brings visit.step.returned
        || Publisher.gathering.sum PublishStep.returned rest) = true ↔ _
      rw [Bool.or_eq_true, ih, ← flag_eq]
      simp only [List.mem_cons, exists_eq_or_imp]

variable {ctx : Context} {owner : Owner} {details : Details}

/-- The publisher of a store has published something if its write has succeeded. -/
theorem flag_of_ran {store : SecretStore} {allowlist : Allowlist}
    {visit : Visit PublishStep Session}
    (hran : PublishLeaf.Ran ctx owner details (.ofStore store allowlist) visit) :
    flag visit.step.returned = true ↔ visit.step.Succeeded := by
  unfold PublishStep.Succeeded
  cases hran with
  | unwanted hnone => simp [PublishStep.returned, flag]
  | @wrote _ _ outcome =>
      rcases outcome with e | f | _ <;> simp [PublishStep.returned, Publisher.verdict, flag]

/-- The publisher of a store whose write has not succeeded leaves the secrets alone. -/
theorem spared_of_ran {store : SecretStore} {allowlist : Allowlist}
    {visit : Visit PublishStep Session}
    (hran : PublishLeaf.Ran ctx owner details (.ofStore store allowlist) visit)
    (hstore : store.ChangesBySuccess) (hfailed : ¬ visit.step.Succeeded) :
    Spared Session.secrets (Progress.turns visit.before visit.changes visit.after) := by
  cases hran with
  | unwanted hnone => exact List.forall_mem_singleton.2 rfl
  | @wrote _ _ outcome s finish changes d hdestination hends =>
      have hspares := (hstore ctx owner (allowlist.restrict details)).run ctx s
      have hspared : Spared Session.secrets (Progress.turns s changes finish) := by
        refine hspares.spared hends ?_
        rintro ⟨_, rfl, rfl⟩
        exact hfailed ⟨store, allowlist, rfl⟩
      -- to report a write, or to count a failure, changes no secret
      refine hspared.congr rfl ?_
      rcases outcome with e | f | _
      · rfl
      · show (Publisher.countFailure _ finish).state.secrets = finish.secrets
        unfold Publisher.countFailure
        split <;> rfl
      · rfl

variable {tree : PublishTree} {s s' : Session} {visits : List (Visit PublishStep Session)}
  {r : Result}

/-- **The flag of a run** says whether one of its writes has succeeded. -/
theorem flag_iff {P : SecretStore → Prop} (hover : tree.Over P)
    (hruns : tree.Runs ctx owner details s visits r s') :
    flag r = true ↔ ∃ visit ∈ visits, visit.step.Succeeded := by
  -- what a run says was published is what its visits say, and these are writes
  have haccount := hruns.account
  rw [flag_eq, haccount.brings]
  refine (sum_iff visits).trans (exists_congr fun visit => and_congr_right fun hmem => ?_)
  obtain ⟨leaf, hleaf, hran⟩ := haccount.ran visit hmem
  obtain ⟨store, allowlist, rfl, -⟩ := hover leaf hleaf
  exact flag_of_ran hran

/-- **A run without the flag** has left the secrets in memory alone. -/
theorem spared_of_flag (hover : tree.Over SecretStore.ChangesBySuccess)
    (hruns : tree.Runs ctx owner details s visits r s') (hflag : flag r = false) :
    Spared Session.secrets (Progress.turns s (visits.flatMap Visit.changes) s') := by
  have haccount := hruns.account
  refine haccount.trail.spared fun visit hmem => ?_
  obtain ⟨leaf, hleaf, hran⟩ := haccount.ran visit hmem
  obtain ⟨store, allowlist, rfl, hstore⟩ := hover leaf hleaf
  -- a write that had succeeded would have set the flag
  refine spared_of_ran hran hstore fun hsucceeded => ?_
  rw [(flag_iff hover hruns).2 ⟨visit, hmem, hsucceeded⟩] at hflag
  cases hflag

end PublishTree

/-! ## §3. The flag is exact. -/

/-- **The published flag is exact.** Take a tree of chains whose leaves are publishers of
stores that change the secrets in memory only by succeeding, such as stores in memory, stores
that follow a script, stores of a cluster, and routers to such stores, whatever is registered
with them.  A publish that ends, whatever others do meanwhile, says that something was
published exactly if one of its writes has succeeded.  If it says that nothing was, it has
changed no secret in memory in any of its turns, so if others did not either, the secrets are
what they were. -/
theorem published_flag_is_exact :
    (∀ id, (SecretStore.memory id).ChangesBySuccess)
      ∧ (∀ readId writeId reads writes,
          (SecretStore.scripted readId writeId reads writes).ChangesBySuccess)
      ∧ (∀ store : ClusterStore, store.toStore.ChangesBySuccess)
      ∧ (∀ router : StoreRouter,
          (∀ config store, router.stores.get? config = some store → store.ChangesBySuccess) →
          router.toStore.ChangesBySuccess)
      ∧ ∀ (tree : PublishTree), tree.Over SecretStore.ChangesBySuccess →
          ∀ ctx owner details s changes r s',
            (tree.publisher ctx owner details s).Ends changes r s' →
            (∃ visits, tree.Runs ctx owner details s visits r s'
                ∧ changes = visits.flatMap Visit.changes)
            ∧ (∀ visits, tree.Runs ctx owner details s visits r s' →
                (PublishTree.flag r = true ↔ ∃ visit ∈ visits, visit.step.Succeeded))
            ∧ (PublishTree.flag r = false →
                Spared Session.secrets (Progress.turns s changes s')
                ∧ ((∀ change ∈ changes, change.2.secrets = change.1.secrets) →
                    s'.secrets = s.secrets)) := by
  refine ⟨SecretStore.changesBySuccess_memory, fun _ _ _ _ => SecretStore.changesBySuccess_scripted,
    ClusterStore.changesBySuccess, fun _ => StoreRouter.changesBySuccess,
    fun tree hover ctx owner details s changes r s' hends => ?_⟩
  obtain ⟨visits, hruns, rfl⟩ := PublishTree.ends_iff.1 hends
  refine ⟨⟨visits, hruns, rfl⟩, fun visits' hruns' => PublishTree.flag_iff hover hruns',
    fun hflag => ?_⟩
  have hspared := PublishTree.spared_of_flag hover hruns hflag
  exact ⟨hspared, hspared.eq⟩

namespace Sample

/-- A bucket that wants its details published to the default store config. -/
def bucket : Owner := ⟨"bucket", none, some (.inStore "conn" "default")⟩

/-- The details of the bucket. -/
def keyPair : Details := .ofList [("user", [1])]

/-- A chain over a router at which no store config is registered. -/
def toNowhere : PublishTree := .chain [.ofStore (StoreRouter.toStore {}) {}]

/-- A chain over a store in memory, and then that one. -/
def toMemoryAndNowhere : PublishTree := .chain [.ofStore (.memory 0) {}, toNowhere]

/-- The error for the store config of the bucket. -/
def unregistered : ConnectionError :=
  .publish (.plain "store config 'default' is not registered")

theorem over_toNowhere : toNowhere.Over SecretStore.ChangesBySuccess := by
  refine List.forall_mem_singleton.2 ⟨_, _, rfl, StoreRouter.changesBySuccess ?_⟩
  rintro config store ⟨⟩

theorem over_toMemoryAndNowhere : toMemoryAndNowhere.Over SecretStore.ChangesBySuccess :=
  List.forall_mem_cons.2
    ⟨⟨_, _, rfl, SecretStore.changesBySuccess_memory 0⟩, over_toNowhere⟩

end Sample

open Sample in
theorem published_to_memory_only :
    (∃ s', (toMemoryAndNowhere.publisher ⟨[]⟩ bucket keyPair { secrets := [.empty] }).Ends []
        (.error ⟨unregistered, true⟩) s'
      ∧ ∃ visits, toMemoryAndNowhere.Runs ⟨[]⟩ bucket keyPair { secrets := [.empty] } visits
          (.error ⟨unregistered, true⟩) s' ∧ ∃ visit ∈ visits, visit.step.Succeeded)
      ∧ ∃ s', (toNowhere.publisher ⟨[]⟩ bucket keyPair { secrets := [.empty] }).Ends []
        (.error ⟨unregistered, false⟩) s' ∧ s'.secrets = [.empty] := by
  obtain ⟨-, -, -, -, hexact⟩ := published_flag_is_exact
  refine ⟨⟨_, .done _ _, ?_⟩, ⟨_, .done _ _, ?_⟩⟩
  · obtain ⟨⟨visits, hruns, -⟩, hflag, -⟩ :=
      hexact toMemoryAndNowhere over_toMemoryAndNowhere ⟨[]⟩ bucket keyPair _ [] _ _ (.done _ _)
    exact ⟨visits, hruns, (hflag visits hruns).1 rfl⟩
  · obtain ⟨-, -, hsame⟩ :=
      hexact toNowhere over_toNowhere ⟨[]⟩ bucket keyPair _ [] _ _ (.done _ _)
    exact (hsame rfl).2 (List.forall_mem_nil _)

end ConnectionRelay
