/-
  ConnectionRelay.Proofs.Pipeline.Accounting
  ──────────────────────────────────────────
  **WHAT THE COUNTERS COUNT.**

  Each counter rises by what the calls of a pipeline tell: by the sizes of the maps that the
  fetchers of stores have returned, by the details that the publishers of stores have
  written, by the writes that have failed, and by the composites that were stored with a
  destination.  What others add, while an operation is suspended and between two operations,
  comes on top of it, and nothing else does.  Main statements:

    • `FetchLeaf.counters_of_ran`, `PublishLeaf.counters_of_ran`, `Call.Made.counters_eq` — the
      counters after one call,
    • `Activity.Recorded.counter_eq` — and after one operation,
    • `counters_account_for_all` — and after any sequence of operations.
-/
import ConnectionRelay.Proofs.Chains.ErrorClass
import ConnectionRelay.Proofs.Store.SparingStores
import Mathlib.Algebra.GroupWithZero.Nat

namespace ConnectionRelay

/-! ## §1. What others add. -/

/-- By how much others have raised a number.  Numbers wrap, so to lower one is to raise it as
well. -/
def drift {σ : Type} (number : σ → UInt64) : List (σ × σ) → UInt64
  | [] => 0
  | change :: rest => number change.2 - number change.1 + drift number rest

section

variable {σ κ : Type} {number : σ → UInt64}

theorem drift_append (changes changes' : List (σ × σ)) :
    drift number (changes ++ changes') = drift number changes + drift number changes' := by
  induction changes with
  | nil => exact (UInt64.zero_add _).symm
  | cons change rest ih => rw [List.cons_append, drift, drift, ih, UInt64.add_assoc]

/-- Others who leave a number alone do not raise it. -/
theorem drift_eq_zero {changes : List (σ × σ)}
    (h : ∀ change ∈ changes, number change.2 = number change.1) : drift number changes = 0 := by
  induction changes with
  | nil => rfl
  | cons change rest ih =>
      obtain ⟨hfirst, hrest⟩ := List.forall_mem_cons.1 h
      rw [drift, hfirst, ih hrest, UInt64.sub_self, UInt64.add_zero]

/-- A number that is spared in all turns rises by what others add. -/
theorem Spared.eq_drift {start stop : σ} {changes : List (σ × σ)}
    (h : Spared number (Progress.turns start changes stop)) :
    number stop = number start + drift number changes := by
  induction changes generalizing start with
  | nil =>
      have hsame : number stop = number start := h (start, stop) (List.mem_singleton_self _)
      rw [hsame, drift, UInt64.add_zero]
  | cons change rest ih =>
      obtain ⟨left, found⟩ := change
      obtain ⟨hfirst, hrest⟩ := List.forall_mem_cons.1 h
      -- the first turn leaves the number alone, and the first change is that after it
      have hleft : number left = number start := hfirst
      rw [ih hrest, drift, hleft]
      grind

/-- If each visit tells by how much it has raised a number, so do all of them together. -/
theorem Trail.eq_drift (tally : κ → Nat) {visits : List (Visit κ σ)} {s s' : σ}
    (h : Trail s visits s')
    (hvisits : ∀ visit ∈ visits, number visit.after
      = number visit.before + drift number visit.changes + .ofNat (tally visit.step)) :
    number s' = number s + drift number (visits.flatMap Visit.changes)
      + .ofNat (visits.map fun visit => tally visit.step).sum := by
  induction h with
  | nil s => exact (UInt64.add_zero _).symm.trans (UInt64.add_zero _).symm
  | @cons step s t s' changes visits _ ih =>
      obtain ⟨hfirst, hrest⟩ := List.forall_mem_cons.1 hvisits
      have hsum : number t = number s + drift number changes + .ofNat (tally step) := hfirst
      rw [ih hrest, hsum, List.flatMap_cons, drift_append, List.map_cons, List.sum_cons,
        UInt64.ofNat_add]
      grind

end

/-- If each call of a leaf tells by how much it has raised a number, so does a run. -/
theorem Nest.Account.eq_drift {ι κ σ ρ μ : Type} [HasTokens σ] {c : Calling ι κ σ ρ}
    {g : Gathering ρ μ} {ctx : Context} {leaves : List ι} {s s' : σ} {visits : List (Visit κ σ)}
    {brought : μ} {e? : Option ConnectionError} (number : σ → UInt64) (tally : κ → Nat)
    (h : Account c g ctx leaves s visits brought e? s')
    (hleaves : ∀ leaf ∈ leaves, ∀ visit, c.Ran leaf visit → number visit.after
      = number visit.before + drift number visit.changes + .ofNat (tally visit.step)) :
    number s' = number s + drift number (visits.flatMap Visit.changes)
      + .ofNat (visits.map fun visit => tally visit.step).sum := by
  refine h.trail.eq_drift tally fun visit hmem => ?_
  obtain ⟨leaf, hleaf, hran⟩ := h.ran visit hmem
  exact hleaves leaf hleaf visit hran

/-! ## §2. Counters. -/

/-- The value of a counter in a session. -/
def Session.counter (m : Metric) (s : Session) : UInt64 := s.counters.get m

theorem Session.counter_count (s : Session) (m k : Metric) (n : Nat) :
    (s.count k n).counter m = s.counter m + .ofNat (if m = k then n else 0) := by
  show (s.counters.add k (.ofNat n)).get m = _
  rw [Counters.get_add]
  by_cases h : m = k
  · rw [if_pos h, if_pos h]
    rfl
  · rw [if_neg h, if_neg h]
    exact (UInt64.add_zero _).symm

/-- Nothing was added to a counter. -/
theorem counter_eq_add_zero {x y : UInt64} (h : x = y) (m k : Metric) :
    x = y + .ofNat (if m = k then 0 else 0) := by
  rw [h, ite_self]
  exact (UInt64.add_zero y).symm

/-- Who counts nothing raises no counter. -/
theorem Task.Spares.counter {α : Type} {t : Operation α} (h : t.Spares Session.counters)
    (m : Metric) : t.Spares (Session.counter m) := h.comp fun counters => counters.get m

/-! ## §3. Fetching. -/

/-- The size of a map that was returned. -/
def FetchTree.size : Result → Nat
  | .ok (some details) => details.size
  | _ => 0

/-- What a call adds to the counters: the size of the map that the fetcher of a store has
returned. -/
def FetchStep.tally (template : Template) : FetchStep → Metric → Nat
  | .read _ outcome, .fetched => FetchTree.size (Fetcher.verdict template outcome)
  | _, _ => 0

theorem Fetcher.counters_logAbsent (owner : Owner) (keys : List String) (s : Session) :
    (logAbsent owner keys s).state.counters = s.counters := by
  induction keys generalizing s with
  | nil => rfl
  | cons key rest ih => exact ih _

/-- A report counts the details that it returns. -/
theorem Fetcher.counter_report (owner : Owner) (selection : Selection) (s : Session) (m : Metric) :
    (report owner selection s).state.counter m
      = s.counter m + .ofNat (if m = .fetched then FetchTree.size selection.result else 0) := by
  have habsent : (logAbsent owner selection.absent s).state.counter m = s.counter m :=
    congrArg (Counters.get · m) (counters_logAbsent owner selection.absent s)
  unfold report
  rw [Task.bind_apply, logAbsent_apply]
  cases selection.result with
  | error e => exact counter_eq_add_zero habsent m .fetched
  | ok fetched =>
      cases fetched with
      | none => exact counter_eq_add_zero habsent m .fetched
      | some details =>
          show ((logAbsent owner selection.absent s).state.count .fetched details.size).counter m
            = _
          rw [Session.counter_count, habsent]
          rfl

/-- The leaf counts nothing itself. -/
def FetchLeaf.CountsNothing : FetchLeaf → Prop
  | .any fetcher => ∀ ctx owner template, (fetcher ctx owner template).Spares Session.counters
  | .ofStore store => store.CountsNothing

/-- **The counters after a call of a fetcher.** -/
theorem FetchLeaf.counters_of_ran {ctx : Context} {owner : Owner} {template : Template}
    {leaf : FetchLeaf} {visit : Visit FetchStep Session} (hleaf : leaf.CountsNothing)
    (hran : leaf.Ran ctx owner template visit) (m : Metric) :
    visit.after.counter m = visit.before.counter m + drift (Session.counter m) visit.changes
      + .ofNat (visit.step.tally template m) := by
  cases hran with
  | @asked fetcher result s s' changes hends =>
      have hspares := (hleaf ctx owner template).counter m
      exact (((hspares s).spared hends not_false).eq_drift).trans (UInt64.add_zero _).symm
  | @read store outcome s finish changes hends =>
      have hspares := ((hleaf.read ctx owner).counter m).run ctx
      have hfinish : finish.counter m = s.counter m + drift (Session.counter m) changes :=
        ((hspares s).spared hends not_false).eq_drift
      have htally : (FetchStep.read store outcome).tally template m
          = if m = .fetched then FetchTree.size (Fetcher.verdict template outcome) else 0 := by
        cases m <;> rfl
      -- the store counts nothing, so what was added is what the report has counted
      show (Fetcher.concluded owner template outcome finish).counter m = _
      rw [htally, ← hfinish]
      rcases outcome with e | f | payload
      · exact counter_eq_add_zero rfl m .fetched
      · exact counter_eq_add_zero rfl m .fetched
      · exact Fetcher.counter_report owner _ finish m

/-! ## §4. Publishing. -/

/-- What a failure counts for: nothing if it was cancelled. -/
def Failure.tally (f : Failure) : Nat :=
  match f.root? with
  | some .cancelled => 0
  | _ => 1

/-- What a call adds to the counters: how many of the details are allowed, if the publisher of
a store has published them, and one if its write has failed without being cancelled. -/
def PublishStep.tally (details : Details) : PublishStep → Metric → Nat
  | .wrote _ allowlist outcome, .published =>
      match Publisher.verdict outcome with
      | .ok true => details.keys.countP allowlist.allows
      | _ => 0
  | .wrote _ _ (.ok (.error f)), .publishErrors => f.tally
  | _, _ => 0

theorem Allowlist.size_restrict (allowlist : Allowlist) (details : Details) :
    (allowlist.restrict details).size = details.keys.countP allowlist.allows := by
  unfold restrict Dict.filterKeys Dict.size Dict.keys
  rw [List.countP_map, List.countP_eq_length_filter]
  rfl

/-- A failed write is counted unless it was cancelled. -/
theorem Publisher.counter_countFailure (f : Failure) (s : Session) (m : Metric) :
    (countFailure (.ofFailure .publish f) s).state.counter m
      = s.counter m + .ofNat (if m = .publishErrors then f.tally else 0) := by
  by_cases h : f.Cancelled
  · have htally : f.tally = 0 := by
      unfold Failure.tally
      rw [show f.root? = _ from h]
    rw [ConnectionError.ofFailure_of_cancelled h, htally]
    exact counter_eq_add_zero rfl m .publishErrors
  · have htally : f.tally = 1 := by
      unfold Failure.tally
      split
      · next hroot => exact absurd hroot h
      · rfl
    rw [ConnectionError.ofFailure_of_not h, htally]
    exact Session.counter_count s m .publishErrors 1

/-- The leaf counts nothing itself. -/
def PublishLeaf.CountsNothing : PublishLeaf → Prop
  | .any publisher => ∀ ctx owner details, (publisher ctx owner details).Spares Session.counters
  | .ofStore store _ => store.CountsNothing

/-- **The counters after a call of a publisher.** -/
theorem PublishLeaf.counters_of_ran {ctx : Context} {owner : Owner} {details : Details}
    {leaf : PublishLeaf} {visit : Visit PublishStep Session} (hleaf : leaf.CountsNothing)
    (hran : leaf.Ran ctx owner details visit) (m : Metric) :
    visit.after.counter m = visit.before.counter m + drift (Session.counter m) visit.changes
      + .ofNat (visit.step.tally details m) := by
  cases hran with
  | @asked publisher result s s' changes hends =>
      have hspares := (hleaf ctx owner details).counter m
      exact (((hspares s).spared hends not_false).eq_drift).trans (UInt64.add_zero _).symm
  | unwanted hnone => exact ((UInt64.add_zero _).trans (UInt64.add_zero _)).symm
  | @wrote store allowlist outcome s finish changes d hdestination hends =>
      have hspares := ((hleaf.write ctx owner (allowlist.restrict details)).counter m).run ctx
      have hfinish : finish.counter m = s.counter m + drift (Session.counter m) changes :=
        ((hspares s).spared hends not_false).eq_drift
      show (Publisher.concluded owner d (allowlist.restrict details) outcome finish).counter m
        = s.counter m + drift (Session.counter m) changes + _
      rw [← hfinish]
      -- given up, failed, or written
      rcases outcome with e | f | _
      · cases m <;> exact (UInt64.add_zero _).symm
      · refine (Publisher.counter_countFailure f finish m).trans ?_
        cases m <;> rfl
      · show (finish.count .published (allowlist.restrict details).size).counter m = _
        rw [Session.counter_count, allowlist.size_restrict]
        cases m <;> rfl

/-! ## §5. Configuring. -/

namespace Call

/-- What a call adds to the counters: one if the updater was called, and the call has
succeeded. -/
def tally (call : Call) : Metric → Nat
  | .configured =>
      match call.update, call.result with
      | some _, .ok () => 1
      | _, _ => 0
  | _ => 0

/-- What others did to the session while the call was suspended. -/
def sessionChanges (call : Call) : List (Session × Session) :=
  call.changes.map fun change => (change.1.1, change.2.1)

end Call

theorem drift_map {σ τ : Type} (number : τ → UInt64) (f : σ → τ) (changes : List (σ × σ)) :
    drift number (changes.map fun change => (f change.1, f change.2))
      = drift (fun s => number (f s)) changes := by
  induction changes with
  | nil => rfl
  | cons change rest ih => rw [List.map_cons, drift, drift, ih]

/-- **The counters after a call of configure.** -/
theorem Call.Made.counters_eq {updater : Updater} {call : Call} (h : call.Made updater)
    (hupdater : updater.CountsNothing) (m : Metric) :
    call.after.1.counter m = call.before.1.counter m + drift (Session.counter m) call.sessionChanges
      + .ofNat (call.tally m) := by
  unfold Call.sessionChanges
  rw [drift_map (Session.counter m) Prod.fst]
  -- the updater was not called, or the call is that of the updater and what follows it
  rcases h.went with ⟨⟨hnone, hafter, hcall⟩, -⟩
    | ⟨w, store, hsome, -, -, -, hstart, hrun, hresult, hafter⟩
  · have hends := h.ends
    rw [hcall, Progress.ends_done_iff] at hends
    have htally : call.tally m = 0 := by
      unfold Call.tally
      rw [hnone]
      cases m <;> rfl
    rw [hends.1, hafter, htally]
    exact ((UInt64.add_zero _).trans (UInt64.add_zero _)).symm
  · have hspares := ((hupdater call.ctx).comp fun counters => counters.get m).run call.ctx
    have hfinish : w.finish.1.counter m
        = w.start.1.counter m + drift (fun st => st.1.counter m) call.changes :=
      ((hspares w.start).spared hrun not_false).eq_drift
    have hbefore : w.start.1.counter m = call.before.1.counter m := by
      rw [hstart]
      rfl
    rw [← hbefore, ← hfinish, hafter]
    unfold Call.tally
    rw [hsome, hresult]
    rcases w.outcome with e | f | _
    · cases m <;> exact (UInt64.add_zero _).symm
    · cases m <;> exact (UInt64.add_zero _).symm
    · show (w.finish.1.count .configured 1).counter m = _
      rw [Session.counter_count]
      cases m <;> rfl

/-! ## §6. Operations. -/

/-- An operation of the pipeline. -/
inductive Activity where
  | fetch (tree : FetchTree) (ctx : Context) (owner : Owner) (template : Template)
  | publish (tree : PublishTree) (ctx : Context) (owner : Owner) (details : Details)
  | configure (updater : Updater) (ctx : Context) (composition : CompositionSpec)

/-- The record of an operation that has ended. -/
inductive Entry where
  | fetched (template : Template) (visits : List (Visit FetchStep Session))
  | published (details : Details) (visits : List (Visit PublishStep Session))
  | configured (call : Call)

namespace Entry

/-- What others did while the operation was suspended. -/
def changes : Entry → List (Session × Session)
  | .fetched _ visits => visits.flatMap Visit.changes
  | .published _ visits => visits.flatMap Visit.changes
  | .configured call => call.sessionChanges

/-- What the operation adds to a counter. -/
def tally (m : Metric) : Entry → Nat
  | .fetched template visits => (visits.map fun visit => visit.step.tally template m).sum
  | .published details visits => (visits.map fun visit => visit.step.tally details m).sum
  | .configured call => call.tally m

end Entry

namespace Activity

/-- The collaborators of the operation count nothing themselves. -/
def CountsNothing : Activity → Prop
  | .fetch tree _ _ _ => ∀ leaf ∈ tree.leaves, leaf.CountsNothing
  | .publish tree _ _ _ => ∀ leaf ∈ tree.leaves, leaf.CountsNothing
  | .configure updater _ _ => updater.CountsNothing

/-- The operation, started in one session, ends in another.  The composite that is configured
belongs to the operation as long as it lasts. -/
def Ends : Activity → Session → List (Session × Session) → Session → Prop
  | .fetch tree ctx owner template, s, changes, s' =>
      ∃ r, (tree.fetcher ctx owner template s).Ends changes r s'
  | .publish tree ctx owner details, s, changes, s' =>
      ∃ r, (tree.publisher ctx owner details s).Ends changes r s'
  | .configure updater ctx composition, s, changes, s' =>
      ∃ composite updates result after,
        (Configurator.configure updater ctx composition (s, composite)).Ends updates result after
          ∧ CompositeTask.LeftAlone updates
          ∧ changes = updates.map (fun change => (change.1.1, change.2.1)) ∧ s' = after.1

/-- The operation, started in one session and ended in another, has this record. -/
inductive Recorded : Activity → Session → Entry → Session → Prop where
  | fetch {tree : FetchTree} {ctx : Context} {owner : Owner} {template : Template} {s s' : Session}
      {visits : List (Visit FetchStep Session)} {r : FetchTree.Result}
      (hruns : tree.Runs ctx owner template s visits r s') :
      Recorded (.fetch tree ctx owner template) s (.fetched template visits) s'
  | publish {tree : PublishTree} {ctx : Context} {owner : Owner} {details : Details}
      {s s' : Session} {visits : List (Visit PublishStep Session)} {r : PublishTree.Result}
      (hruns : tree.Runs ctx owner details s visits r s') :
      Recorded (.publish tree ctx owner details) s (.published details visits) s'
  | configure {updater : Updater} {call : Call} (hmade : call.Made updater) :
      Recorded (.configure updater call.ctx call.composition) call.before.1 (.configured call)
        call.after.1

variable {activity : Activity} {s s' : Session}

/-- **Every operation that ends has a record.** -/
theorem exists_recorded {changes : List (Session × Session)} (h : activity.Ends s changes s') :
    ∃ entry, activity.Recorded s entry s' ∧ changes = entry.changes := by
  cases activity with
  | fetch tree ctx owner template =>
      obtain ⟨r, hends⟩ := h
      obtain ⟨visits, hruns, rfl⟩ := FetchTree.ends_iff.1 hends
      exact ⟨_, .fetch hruns, rfl⟩
  | publish tree ctx owner details =>
      obtain ⟨r, hends⟩ := h
      obtain ⟨visits, hruns, rfl⟩ := PublishTree.ends_iff.1 hends
      exact ⟨_, .publish hruns, rfl⟩
  | configure updater ctx composition =>
      obtain ⟨composite, updates, result, after, hends, halone, rfl, rfl⟩ := h
      obtain ⟨update, hmade⟩ := Configurator.exists_made hends halone
      exact ⟨_, .configure hmade, rfl⟩

/-- **The counters after an operation.** -/
theorem Recorded.counter_eq {entry : Entry} (h : activity.Recorded s entry s')
    (hcollaborators : activity.CountsNothing) (m : Metric) :
    s'.counter m = s.counter m + drift (Session.counter m) entry.changes
      + .ofNat (entry.tally m) := by
  cases h with
  | @fetch tree ctx owner template _ _ visits r hruns =>
      have hcounter := hruns.account.eq_drift (Session.counter m)
        (fun step => step.tally template m) fun leaf hleaf _ hran =>
          leaf.counters_of_ran (hcollaborators leaf hleaf) hran m
      exact hcounter
  | @publish tree ctx owner details _ _ visits r hruns =>
      have hcounter := hruns.account.eq_drift (Session.counter m)
        (fun step => step.tally details m) fun leaf hleaf _ hran =>
          leaf.counters_of_ran (hcollaborators leaf hleaf) hran m
      exact hcounter
  | configure hmade => exact hmade.counters_eq hcollaborators m

/-! ## §7. Sequences of operations. -/

/-- Operations that have ended one after the other.  Among the changes are those that others
have made between two operations. -/
inductive Performed : List Activity → Session → List (Session × Session) → Session → Prop where
  | nil (s : Session) : Performed [] s [] s
  | cons {activity : Activity} {rest : List Activity} {s t t' s' : Session}
      {changes changes' : List (Session × Session)} (h : activity.Ends t changes t')
      (hrest : Performed rest t' changes' s') :
      Performed (activity :: rest) s ((s, t) :: (changes ++ changes')) s'

/-- The records of operations that have ended one after the other. -/
inductive History : List Activity → Session → List Entry → List (Session × Session) → Session →
    Prop where
  | nil (s : Session) : History [] s [] [] s
  | cons {activity : Activity} {rest : List Activity} {s t t' s' : Session} {entry : Entry}
      {entries : List Entry} {changes : List (Session × Session)}
      (h : activity.Recorded t entry t') (hrest : History rest t' entries changes s') :
      History (activity :: rest) s (entry :: entries) ((s, t) :: (entry.changes ++ changes)) s'

variable {activities : List Activity} {changes : List (Session × Session)} {entries : List Entry}

/-- Every sequence of operations that have ended has records. -/
theorem Performed.exists_history (h : Performed activities s changes s') :
    ∃ entries, History activities s entries changes s' := by
  induction h with
  | nil s => exact ⟨[], .nil s⟩
  | cons hends _ ih =>
      obtain ⟨entry, hrecorded, rfl⟩ := exists_recorded hends
      obtain ⟨entries, hhistory⟩ := ih
      exact ⟨entry :: entries, .cons hrecorded hhistory⟩

/-- **The counters after a sequence of operations.** -/
theorem History.counter_eq (h : History activities s entries changes s')
    (hcollaborators : ∀ activity ∈ activities, activity.CountsNothing) (m : Metric) :
    s'.counter m = s.counter m + drift (Session.counter m) changes
      + .ofNat (entries.map (Entry.tally m)).sum := by
  induction h with
  | nil s => exact ((UInt64.add_zero _).trans (UInt64.add_zero _)).symm
  | cons hrecorded _ ih =>
      obtain ⟨hfirst, hrest⟩ := List.forall_mem_cons.1 hcollaborators
      rw [ih hrest, hrecorded.counter_eq hfirst m, drift, drift_append, List.map_cons,
        List.sum_cons, UInt64.ofNat_add]
      grind

end Activity

/-! ## §8. Counters account for everything. -/

/-- **Counters account exactly for what happened.** Operations fetch, publish and configure one
after the other, through any chains and with collaborators of any outcome, and others do
anything while an operation is suspended and between two operations.  If the collaborators
count nothing themselves, as the stores and updaters of the relay and those that follow a
script do not, then every counter rises by what others add and by what the records tell: the
sizes of the maps that store fetchers have returned, the allowed details that store publishers
have published, the writes that have failed without being cancelled, and the calls that have
had the updater store a composite.  So without others each counter rises by just that, as a
number of 64 bits. -/
theorem counters_account_for_all :
    ((∀ id, (SecretStore.memory id).CountsNothing)
        ∧ (∀ readId writeId reads writes,
          (SecretStore.scripted readId writeId reads writes).CountsNothing)
        ∧ (∀ store : ClusterStore, store.toStore.CountsNothing)
        ∧ (∀ router : StoreRouter,
          (∀ config store, router.stores.get? config = some store → store.CountsNothing) →
          router.toStore.CountsNothing)
        ∧ (∀ cluster, (Updater.ofCluster cluster).CountsNothing)
        ∧ ∀ id script, (Updater.scripted id script).CountsNothing)
      ∧ ∀ activities s changes s', Activity.Performed activities s changes s' →
          (∃ entries, Activity.History activities s entries changes s')
          ∧ ∀ entries, Activity.History activities s entries changes s' →
              (∀ activity ∈ activities, activity.CountsNothing) → ∀ m,
              s'.counter m = s.counter m + drift (Session.counter m) changes
                  + .ofNat (entries.map (Entry.tally m)).sum
                ∧ ((∀ change ∈ changes, change.2.counter m = change.1.counter m) →
                    (s'.counter m).toNat
                      = ((s.counter m).toNat + (entries.map (Entry.tally m)).sum) % 2 ^ 64) := by
  refine ⟨⟨SecretStore.countsNothing_memory,
      fun _ _ _ _ => SecretStore.countsNothing_scripted, ClusterStore.countsNothing,
      fun _ => StoreRouter.countsNothing, Updater.countsNothing_ofCluster,
      Updater.countsNothing_scripted⟩,
    fun activities s changes s' hperformed =>
      ⟨hperformed.exists_history, fun entries hhistory hcollaborators m => ?_⟩⟩
  have hcounter := hhistory.counter_eq hcollaborators m
  refine ⟨hcounter, fun halone => ?_⟩
  rw [hcounter, drift_eq_zero halone, UInt64.add_zero, UInt64.toNat_add, UInt64.toNat_ofNat',
    Nat.add_mod_mod]

namespace Sample

/-- An owner with a secret in the default store. -/
def bucketOwner : Owner := ⟨"bucket", none, some (.inStore "conn" "default")⟩

/-- The secret of the owner. -/
def userPair : Details := .ofList [("user", [1])]

/-- A session with the secret. -/
def stocked : Session := { secrets := [.ofList [("default/conn", userPair)]] }

/-- Fetch the secret. -/
def fetchUser : Activity :=
  .fetch (.chain [.chain [.ofStore (.memory 0)]]) ⟨[]⟩ bucketOwner
    { details := [.ofSecretKey "user" none] }

/-- Publish it, at first to the store in memory, and then by a router without stores. -/
def publishUser : Activity :=
  .publish (.chain [.ofStore (.memory 0) {}, .ofStore (StoreRouter.toStore {}) {}]) ⟨[]⟩ bucketOwner
    userPair

/-- Configure a composite with an updater that accepts it. -/
def configureUser : Activity := .configure (fun _ => pure (.ok ())) ⟨[]⟩ composition

theorem countsNothing_all :
    ∀ activity ∈ [fetchUser, publishUser, configureUser], activity.CountsNothing := by
  have hrouter : (StoreRouter.toStore {}).CountsNothing := by
    refine StoreRouter.countsNothing ?_
    rintro config store ⟨⟩
  refine List.forall_mem_cons.2 ⟨?_, List.forall_mem_cons.2 ⟨?_, List.forall_mem_singleton.2 ?_⟩⟩
  · exact List.forall_mem_singleton.2 (SecretStore.countsNothing_memory 0)
  · exact List.forall_mem_cons.2
      ⟨SecretStore.countsNothing_memory 0, List.forall_mem_singleton.2 hrouter⟩
  · exact fun _ => .pure _

end Sample

open Sample in
theorem each_counter_by_one :
    ∃ s' entries, (∀ m, s'.counter m = 1)
      ∧ (∃ changes, Activity.History [fetchUser, publishUser, configureUser] stocked entries
          changes s')
      ∧ ∀ m, (s'.counter m).toNat
          = ((stocked.counter m).toNat + (entries.map (Entry.tally m)).sum) % 2 ^ 64 := by
  have hperformed : ∃ s' changes, Activity.Performed [fetchUser, publishUser, configureUser]
      stocked changes s' ∧ (∀ change ∈ changes, change.2 = change.1) ∧ ∀ m, s'.counter m = 1 := by
    -- nothing is suspended, so each operation ends in the session in which it is done
    have hstart {activity : Activity} {rest : List Activity} {s t s' : Session}
        {changes : List (Session × Session)} (h : activity.Ends s [] t)
        (hrest : Activity.Performed rest t changes s') :
        Activity.Performed (activity :: rest) s ((s, s) :: changes) s' := .cons h hrest
    refine ⟨_, _, hstart ⟨_, .done _ _⟩ (hstart ⟨_, .done _ _⟩
      (hstart ⟨composite, [], _, _, .done _ _, List.forall_mem_nil _, rfl, rfl⟩ (.nil _))), ?_, ?_⟩
    · simp
    · intro m
      cases m <;> rfl
  obtain ⟨s', changes, hperformed, halone, hcounters⟩ := hperformed
  obtain ⟨⟨entries, hhistory⟩, haccount⟩ :=
    counters_account_for_all.2 _ stocked changes s' hperformed
  refine ⟨s', entries, hcounters, ⟨changes, hhistory⟩, fun m => ?_⟩
  refine (haccount entries hhistory countsNothing_all m).2 fun change hmem => ?_
  rw [halone change hmem]

end ConnectionRelay
