/-
  ConnectionRelay.Proofs.Pipeline.Undisclosed
  ───────────────────────────────────────────
  **WHAT IS NOT DECLARED OR NOT ALLOWED STAYS HIDDEN.**

  Two runs with different secrets cannot be told apart as long as the difference lies in keys
  that a fetch does not copy or a publish does not let through: not by their results, the
  counters, the log lines or the requests, nor by when they are suspended.  Main statements:

    • `Fetcher.lockstep_ofStore` — a fetch depends on the keys its template names,
    • `Publisher.ofStore_congr` — a publish depends on the allowed part of its details,
    • `hidden_keys_stay_hidden` — both.
-/
import ConnectionRelay.Fetcher
import ConnectionRelay.Publisher
import ConnectionRelay.Proofs.Store.TwoRuns

namespace ConnectionRelay

open ConnectionRelay.Task (Twin)
open Session (InStep Likeness SameStores)

/-! ## §1. What a template copies. -/

/-- Does a declaration of the template copy this key of the connection secret? -/
def Template.Names (template : Template) (k : String) : Prop :=
  ∃ d ∈ template.details,
    d.effectiveType = .fromConnectionSecretKey ∧ d.secretKey = some k

/-- Two payloads, either of which may be missing, have the same under the keys that the
template names. -/
def Template.SamePayload (template : Template) (payload payload' : Option Details) : Prop :=
  ∀ k, template.Names k → payload.bind (·.get? k) = payload'.bind (·.get? k)

namespace Selection

variable {payload payload' : Details}

theorem copy_congr {source : String} (h : payload.get? source = payload'.get? source)
    (s : Selection) (target : String) :
    s.copy payload source target = s.copy payload' source target := by
  unfold copy
  rw [h]

/-- A declaration that copies a key names it. -/
theorem names_of_copying {d : Declaration} {source target : String}
    (h : d.copying = .key source target) :
    d.effectiveType = .fromConnectionSecretKey ∧ d.secretKey = some source := by
  unfold Declaration.copying at h
  split at h
  · next htype hkey =>
      cases h
      exact ⟨htype, hkey⟩
  · cases h
  · cases h

theorem follow_congr {ds : List Declaration} (h : ∀ d ∈ ds, ∀ source target,
    d.copying = .key source target → payload.get? source = payload'.get? source)
    (s : Selection) : s.follow payload ds = s.follow payload' ds := by
  -- on the declarations, with what was selected before them general
  induction ds generalizing s with
  | nil => rfl
  | cons d rest ih =>
      have hrest := fun s => ih (fun d hd => h d (List.mem_cons_of_mem _ hd)) s
      unfold follow
      cases hcopying : d.copying with
      | nothing => exact hrest s
      | unnamed => rfl
      | key source target =>
          simp only
          rw [copy_congr (h d List.mem_cons_self source target hcopying)]
          exact hrest _

/-- What is selected depends on what the payload has under the keys that the template names. -/
theorem of_congr {template : Template} {payload payload' : Option Details}
    (h : template.SamePayload payload payload') :
    of (payload.getD .empty) template = of (payload'.getD .empty) template := by
  have hget : ∀ (payload : Option Details) k,
      (payload.getD .empty).get? k = payload.bind (·.get? k) := by
    intro payload k
    cases payload <;> rfl
  refine follow_congr (fun d hd source target hcopying => ?_) _
  rw [hget, hget]
  exact h source ⟨d, hd, names_of_copying hcopying⟩

end Selection

/-! ## §2. Fetching. -/

namespace Fetcher

variable {R : Session → Session → Prop}

theorem twin_logAbsent (hR : Likeness R) (owner : Owner) (keys : List String) :
    Twin R Eq (logAbsent owner keys) (logAbsent owner keys) := by
  induction keys with
  | nil => exact .pure rfl
  | cons key rest ih => exact .andThen (Operation.twin_log hR _ _ _) fun _ => ih

theorem twin_report (hR : Likeness R) (owner : Owner) (selection : Selection) :
    Twin R Eq (report owner selection) (report owner selection) := by
  unfold report
  refine .andThen (twin_logAbsent hR owner _) fun _ => ?_
  cases selection.result with
  | error e => exact .pure rfl
  | ok fetched =>
      cases fetched with
      | none => exact .pure rfl
      | some details => exact .andThen (Operation.twin_count hR _ _) fun _ => .pure rfl

/-- **A fetch depends on the keys its template names.**  Where two stores are read in lockstep
and what they return is the same under those keys, the fetches are in lockstep, with the same
results. -/
theorem lockstep_ofStore (hR : Likeness R) {store store' : SecretStore} {ctx : Context}
    {owner : Owner} {template : Template} {s t : Session} (hst : R s t)
    (hread : Lockstep R (SameOutcome template.SamePayload) (store.read ctx owner s)
      (store'.read ctx owner t)) :
    Lockstep R Eq (ofStore store ctx owner template s) (ofStore store' ctx owner template t) := by
  refine (hread.run (hR.isCancelled ctx) hst).bind fun answer answer' s t hanswer hst => ?_
  cases hanswer with
  | error e => exact .done rfl hst
  | ok houtcome =>
      cases houtcome with
      | error f => exact .done rfl hst
      | ok hpayload =>
          simp only
          -- the same is selected from both payloads, and reported by one operation
          rw [Selection.of_congr hpayload]
          exact twin_report hR owner _ s t hst

end Fetcher

/-! ## §3. Publishing. -/

/-- The same keys in another order, or some of them twice, allow the same. -/
theorem Allowlist.allows_congr {keys keys' : List String} (h : ∀ k, k ∈ keys ↔ k ∈ keys')
    (k : String) : (Allowlist.mk keys).allows k = (Allowlist.mk keys').allows k := by
  have hempty : keys = [] ↔ keys' = [] := by
    rw [List.eq_nil_iff_forall_not_mem, List.eq_nil_iff_forall_not_mem]
    exact forall_congr' fun k => not_congr (h k)
  rw [Bool.eq_iff_iff]
  simp [allows, h, hempty]

/-- The allowed part depends on what the details have under allowed keys. -/
theorem Allowlist.restrict_congr {keys keys' : List String} (h : ∀ k, k ∈ keys ↔ k ∈ keys')
    {details details' : Details}
    (hdetails : ∀ k, keys = [] ∨ k ∈ keys → details.get? k = details'.get? k) :
    (Allowlist.mk keys).restrict details = (Allowlist.mk keys').restrict details' := by
  ext k : 1
  unfold restrict
  rw [Dict.get?_filterKeys, Dict.get?_filterKeys, ← allows_congr h]
  by_cases hallows : (Allowlist.mk keys).allows k = true
  · rw [if_pos hallows, if_pos hallows]
    exact hdetails k (by simpa [allows] using hallows)
  · rw [if_neg hallows, if_neg hallows]

namespace Publisher

variable {keys keys' : List String} {details details' : Details}

/-- **A publish depends on the allowed part of its details**, and on what its store does when
it is told to write this part. -/
theorem ofStore_congr (h : ∀ k, k ∈ keys ↔ k ∈ keys')
    (hdetails : ∀ k, keys = [] ∨ k ∈ keys → details.get? k = details'.get? k)
    {store store' : SecretStore} {ctx : Context} {owner : Owner}
    (hwrite : store.write ctx owner ((Allowlist.mk keys).restrict details)
      = store'.write ctx owner ((Allowlist.mk keys).restrict details)) :
    ofStore store ⟨keys⟩ ctx owner details = ofStore store' ⟨keys'⟩ ctx owner details' := by
  unfold ofStore
  cases owner.destination with
  | none => rfl
  | some d =>
      simp only
      unfold writeTo
      rw [hwrite, Allowlist.restrict_congr h hdetails]

variable {R : Session → Session → Prop}

theorem twin_countFailure (hR : Likeness R) (e : ConnectionError) :
    Twin R Eq (countFailure e) (countFailure e) := by
  unfold countFailure
  split
  · exact .pure rfl
  · exact Operation.twin_count hR _ _

/-- Where its store writes in lockstep, a publish is in lockstep. -/
theorem twin_ofStore (hR : Likeness R) {store : SecretStore} {ctx : Context} {owner : Owner}
    (hwrite : ∀ details, Twin R Eq (store.write ctx owner details) (store.write ctx owner details))
    (allowlist : Allowlist) (details : Details) :
    Twin R Eq (ofStore store allowlist ctx owner details)
      (ofStore store allowlist ctx owner details) := by
  unfold ofStore
  cases owner.destination with
  | none => exact .andThen (Operation.twin_log hR _ _ _) fun _ => .pure rfl
  | some d =>
      simp only
      unfold writeTo
      refine .bind (.run (hR.isCancelled ctx) (hwrite _)) fun answer _ hanswer => ?_
      cases hanswer with
      | error e => exact .pure rfl
      | @ok answer _ hanswer =>
          subst hanswer
          cases answer with
          | error f => exact .andThen (twin_countFailure hR _) fun _ => .pure rfl
          | ok _ =>
              refine .andThen (.andThen (Operation.twin_log hR _ _ _) fun _ => ?_)
                fun _ => .pure rfl
              exact Operation.twin_count hR _ _

end Publisher

/-! ## §4. Both. -/

/-- **What is not declared or not allowed stays hidden.**  Take two runs.  Fetches from stores
that are read in lockstep, and return the same under the keys that the template names, are in
lockstep with the same result, whatever relation of the sessions is kept between the runs; so
they add the same to the counters, and note the same.  Publishes of details that are the same
under the allowed keys are one and the same operation, which tells its store nothing but to
write the allowed part, and the order and repetition of the keys in the list do not matter.  In
two runs with the same secrets in memory and the same servers they have the same result, add
the same to the counters, send the same requests and leave the same secrets, with every steady
store: one in memory, one of a cluster, or a router to such stores. -/
theorem hidden_keys_stay_hidden :
    (∀ R, Likeness R → ∀ (store store' : SecretStore) ctx owner (template : Template) s t, R s t →
        Lockstep R (SameOutcome template.SamePayload) (store.read ctx owner s)
          (store'.read ctx owner t) →
        Lockstep R Eq (Fetcher.ofStore store ctx owner template s)
          (Fetcher.ofStore store' ctx owner template t))
      ∧ (∀ (store store' : SecretStore) ctx owner (template : Template) s t, s.fired = t.fired →
          Lockstep (InStep s t) (SameOutcome template.SamePayload) (store.read ctx owner s)
            (store'.read ctx owner t) →
          SameEnd (InStep s t) (Fetcher.ofStore store ctx owner template s)
            (Fetcher.ofStore store' ctx owner template t))
      ∧ (∀ keys keys' : List String, (∀ k, k ∈ keys ↔ k ∈ keys') → ∀ details details' : Details,
          (∀ k, keys = [] ∨ k ∈ keys → details.get? k = details'.get? k) → ∀ ctx owner,
          (∀ store store' : SecretStore,
            store.write ctx owner ((Allowlist.mk keys).restrict details)
              = store'.write ctx owner ((Allowlist.mk keys).restrict details) →
            Publisher.ofStore store ⟨keys⟩ ctx owner details
              = Publisher.ofStore store' ⟨keys'⟩ ctx owner details')
          ∧ ∀ store : SecretStore, store.Steady → ∀ s t, SameStores s t s t →
              Lockstep (SameStores s t) Eq (Publisher.ofStore store ⟨keys⟩ ctx owner details s)
                  (Publisher.ofStore store ⟨keys'⟩ ctx owner details' t)
                ∧ SameEnd (SameStores s t) (Publisher.ofStore store ⟨keys⟩ ctx owner details s)
                    (Publisher.ofStore store ⟨keys'⟩ ctx owner details' t))
      ∧ (∀ id, (SecretStore.memory id).Steady)
      ∧ (∀ cluster : ClusterStore, cluster.toStore.Steady)
      ∧ ∀ router : StoreRouter,
          (∀ config store, router.stores.get? config = some store → store.Steady) →
          router.toStore.Steady := by
  refine ⟨fun R hR store store' ctx owner template s t => Fetcher.lockstep_ofStore hR,
    fun store store' ctx owner template s t hfired hread =>
      (Fetcher.lockstep_ofStore (InStep.likeness s t) (.refl hfired) hread).sameEnd,
    fun keys keys' hkeys details details' hdetails ctx owner => ⟨fun store store' hwrite =>
      Publisher.ofStore_congr hkeys hdetails hwrite, fun store hsteady s t hst => ?_⟩,
    SecretStore.steady_memory, ClusterStore.steady, fun router => StoreRouter.steady⟩
  have hlockstep := Publisher.twin_ofStore (SameStores.likeness s t) (hsteady s t ctx owner)
    ⟨keys⟩ details s t hst
  -- the second run makes the same publish, from its own details and its own list
  have hsame := Publisher.ofStore_congr hkeys hdetails
    (rfl : store.write ctx owner ((Allowlist.mk keys).restrict details) = _)
  rw [hsame] at hlockstep ⊢
  exact ⟨hlockstep, hlockstep.sameEnd⟩

/-! ## §5. Two passwords. -/

namespace TwoPasswords

/-- A database with a connection secret. -/
def database : Owner := ⟨"rds", none, some (.inStore "rds-conn" "default")⟩

/-- Only the user is passed on. -/
def template : Template := { details := [.ofSecretKey "username" (some "user")] }

/-- The payload with this password. -/
def payload (password : Bytes) : Details := .ofList [("user", [1]), ("password", password)]

/-- The session of the run in which the secret has this password. -/
def session (password : Bytes) : Session :=
  { secrets := [.ofList [("default/rds-conn", payload password)]] }

end TwoPasswords

open TwoPasswords in
/-- Neither a fetch that copies the user nor a publish that allows the user tells which of two
passwords there is. -/
theorem two_passwords_stay_hidden :
    payload [2] ≠ payload [3]
      ∧ SameEnd (InStep (session [2]) (session [3]))
          (Fetcher.ofStore (.memory 0) ⟨[0]⟩ database template (session [2]))
          (Fetcher.ofStore (.memory 0) ⟨[0]⟩ database template (session [3]))
      ∧ Publisher.ofStore (ClusterStore.mk "main" "shared").toStore ⟨["user", "port"]⟩ ⟨[0]⟩
            database (payload [2])
          = Publisher.ofStore (ClusterStore.mk "main" "shared").toStore ⟨["port", "user", "port"]⟩
              ⟨[0]⟩ database (payload [3]) := by
  obtain ⟨-, hfetch, hpublish, -⟩ := hidden_keys_stay_hidden
  have hagree : template.SamePayload (some (payload [2])) (some (payload [3])) := by
    rintro k ⟨d, hd, -, hkey⟩
    cases List.mem_singleton.1 hd
    cases hkey
    decide +kernel
  have hread : ∀ password, (SecretStore.memory 0).read ⟨[0]⟩ database (session password)
      = .done (.ok (some (payload password))) (session password) := fun password => rfl
  refine ⟨by decide +kernel, hfetch _ _ _ _ _ _ _ rfl ?_, ?_⟩
  · rw [hread, hread]
    exact .done (.ok hagree) (.refl rfl)
  · refine (hpublish _ _ (fun k => ?_) _ _ (fun k hk => ?_) _ _).1 _ _ rfl
    · simp only [List.mem_cons, List.not_mem_nil, or_false]
      grind
    · obtain hnil | hk := hk
      · cases hnil
      · simp only [List.mem_cons, List.not_mem_nil, or_false] at hk
        obtain rfl | rfl := hk
        · decide +kernel
        · decide +kernel

end ConnectionRelay
