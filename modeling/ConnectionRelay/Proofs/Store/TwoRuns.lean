/-
  ConnectionRelay.Proofs.Store.TwoRuns
  ────────────────────────────────────
  **WHAT TWO RUNS SHOW OF THEMSELVES.**

  Two sessions are in step if, since their runs began, the same was noted in both journals
  and the same was added to every counter, and the same tokens have fired.  Requests are
  noted as they are sent, so runs that are in step have sent the same requests.  Main
  statements: where two runs have the same secrets and the same servers, the stores of the
  relay write in lockstep (`SecretStore.steady_memory`, `ClusterStore.steady`,
  `StoreRouter.steady`).
-/
import ConnectionRelay.Proofs.Task.Lockstep
import ConnectionRelay.Store.Cluster
import ConnectionRelay.Store.Memory
import ConnectionRelay.Store.Router

namespace ConnectionRelay

open Cluster (Secret)
open ConnectionRelay.Task (Twin)

/-! ## §1. Sessions in step. -/

namespace Session

/-- A relation between the sessions of two runs that sees which contexts are cancelled, and
that still holds when the same is noted or counted in both. -/
structure Likeness (R : Session → Session → Prop) : Prop where
  fired : ∀ {s t}, R s t → s.fired = t.fired
  note : ∀ {s t}, R s t → ∀ e, R (s.note e) (t.note e)
  count : ∀ {s t}, R s t → ∀ m n, R (s.count m n) (t.count m n)

/-- Sessions of two runs that have begun in `s₀` and `t₀` and are in step since. -/
structure InStep (s₀ t₀ s t : Session) : Prop where
  fired : s.fired = t.fired
  counted : ∀ m, s.counters.get m - s₀.counters.get m = t.counters.get m - t₀.counters.get m
  noted : ∃ events, s.journal = s₀.journal ++ events ∧ t.journal = t₀.journal ++ events

namespace Likeness

variable {R : Session → Session → Prop} {s t : Session}

/-- A context is cancelled in both runs or in none. -/
theorem isCancelled (hR : Likeness R) (ctx : Context) (s t : Session) (hst : R s t) :
    ctx.isCancelled s = ctx.isCancelled t :=
  Context.isCancelled_congr (hR.fired hst) ctx

/-- Log lines are noted one after the other. -/
theorem log (hR : Likeness R) (hst : R s t) (lines : List LogLine) :
    R (s.log lines) (t.log lines) := by
  induction lines generalizing s t with
  | nil =>
      unfold Session.log
      rw [List.map_nil, List.append_nil, List.append_nil]
      exact hst
  | cons line rest ih =>
      have hlog : ∀ s : Session, s.log (line :: rest) = (s.note (.logged line)).log rest := by
        intro s
        unfold Session.log Session.note
        rw [List.map_cons, List.append_assoc]
        rfl
      rw [hlog, hlog]
      exact ih (hR.note hst _)

end Likeness

namespace InStep

variable {s₀ t₀ s t : Session}

/-- Two runs are in step when they begin. -/
theorem refl (h : s.fired = t.fired) : InStep s t s t where
  fired := h
  counted m := by rw [UInt64.sub_self, UInt64.sub_self]
  noted := ⟨[], (List.append_nil _).symm, (List.append_nil _).symm⟩

theorem note (h : InStep s₀ t₀ s t) (e : Event) : InStep s₀ t₀ (s.note e) (t.note e) where
  fired := h.fired
  counted := h.counted
  noted := by
    obtain ⟨events, hs, ht⟩ := h.noted
    refine ⟨events ++ [e], ?_, ?_⟩
    · show s.journal ++ [e] = _
      rw [hs, List.append_assoc]
    · show t.journal ++ [e] = _
      rw [ht, List.append_assoc]

theorem count (h : InStep s₀ t₀ s t) (m : Metric) (n : Nat) :
    InStep s₀ t₀ (s.count m n) (t.count m n) where
  fired := h.fired
  counted k := by
    have hcounted := h.counted k
    show (s.counters.add m _).get k - _ = (t.counters.add m _).get k - _
    rw [Counters.get_add, Counters.get_add]
    by_cases hk : k = m
    · rw [if_pos hk, if_pos hk]
      grind
    · rw [if_neg hk, if_neg hk]
      exact hcounted
  noted := h.noted

theorem likeness (s₀ t₀ : Session) : Likeness (InStep s₀ t₀) where
  fired h := h.fired
  note h := h.note
  count h := h.count

end InStep

/-- Sessions in step, with the same secrets in memory and the same servers: nothing that a
store works with tells the two runs apart. -/
structure SameStores (s₀ t₀ s t : Session) : Prop extends InStep s₀ t₀ s t where
  secrets : s.secrets = t.secrets
  servers : s.servers = t.servers
  contexts : s.contexts = t.contexts
  queuesWait : s.queuesWait = t.queuesWait

namespace SameStores

variable {s₀ t₀ s t : Session}

theorem likeness (s₀ t₀ : Session) : Likeness (SameStores s₀ t₀) where
  fired h := h.fired
  note h e := { h with toInStep := h.toInStep.note e }
  count h m n := { h with toInStep := h.toInStep.count m n }

theorem serveQueues (h : SameStores s₀ t₀ s t) (cluster : String) :
    SameStores s₀ t₀ (s.serveQueues cluster) (t.serveQueues cluster) := by
  unfold Session.serveQueues
  rw [h.servers, h.queuesWait]
  exact { (likeness s₀ t₀).log h _ with queuesWait := rfl }

theorem setServer (h : SameStores s₀ t₀ s t) (cluster : String) (server : Cluster.ApiServer) :
    SameStores s₀ t₀ (s.setServer cluster server) (t.setServer cluster server) where
  toInStep := { h.toInStep with }
  secrets := h.secrets
  servers := congrArg (·.insert cluster server) h.servers
  contexts := h.contexts
  queuesWait := h.queuesWait

theorem cancelNamed (h : SameStores s₀ t₀ s t) (name : Option String) :
    SameStores s₀ t₀ (s.cancelNamed name) (t.cancelNamed name) := by
  have hcontext : s.context? = t.context? := by
    unfold Session.context?
    rw [h.contexts]
  unfold Session.cancelNamed
  rw [hcontext]
  cases name.bind t.context? with
  | none => exact h
  | some ctx =>
      unfold Session.cancel
      simp only
      cases ctx.token? with
      | none => exact h
      | some token =>
          exact { h with
            toInStep := { h.toInStep with fired := congrArg (token :: ·) h.fired } }

end SameStores

end Session

open Session

/-! ## §2. Writes. -/

section Writes

variable {α β : Type} {s₀ t₀ : Session}

namespace Operation

variable {R : Session → Session → Prop}

theorem twin_log (hR : Likeness R) (level : Level) (origin : Origin) (message : String) :
    Twin R Eq (log level origin message) (log level origin message) :=
  .modify fun _ _ hst => hR.note hst _

theorem twin_count (hR : Likeness R) (m : Metric) (n : Nat) : Twin R Eq (count m n) (count m n) :=
  .modify fun _ _ hst => hR.count hst m n

theorem twin_ensureActive (hR : Likeness R) (ctx : Context) :
    Twin R Eq (ctx.ensureActive : Operation (Except ConnectionError Unit)) ctx.ensureActive := by
  intro s t hst
  unfold Context.ensureActive
  rw [hR.isCancelled ctx s t hst]
  exact .done rfl hst

/-- A request is noted as it is sent, and the same servers answer it alike. -/
theorem twin_send (cluster : String) (request : Cluster.Request) :
    Twin (SameStores s₀ t₀) Eq (send cluster request) (send cluster request) := by
  have hR := SameStores.likeness s₀ t₀
  have hserver : ∀ {s t}, SameStores s₀ t₀ s t → s.serverOf cluster = t.serverOf cluster := by
    intro s t hst
    unfold Session.serverOf
    rw [hst.servers]
  refine .andThen (.modify fun s t hst => hR.log hst _) fun _ => ?_
  refine .andThen .pause fun _ => ?_
  refine .andThen (.modify fun s t hst => hst.serveQueues cluster) fun _ => ?_
  refine .bind .get fun s t hst => ?_
  -- both servers are in the same state, so the same rule decides about the request
  simp only [hserver hst]
  refine .andThen (.modify fun s t hst =>
    ((hR.note hst _).setServer cluster _).cancelNamed _) fun _ => ?_
  split
  · exact .hang
  · split
    · exact .pure rfl
    · refine .bind .get fun s t hst => ?_
      simp only [hserver hst]
      exact .andThen (.modify fun s t hst => hst.setServer cluster _) fun _ => .pure rfl

end Operation

theorem Cluster.Client.twin_ask (cluster : String) (request : Option Cluster.Request)
    (decode : Wire.Decoder α) (look : Cluster.Response → Option β) :
    Twin (SameStores s₀ t₀) Eq (ask cluster request decode look)
      (ask cluster request decode look) := by
  unfold ask
  cases request with
  | none => exact .pure rfl
  | some request =>
      refine .andThen (Operation.twin_send cluster request) fun answer => ?_
      cases answer with
      | none => exact .pure rfl
      | some response =>
          exact .andThen (.modify fun s t hst => (SameStores.likeness s₀ t₀).log hst _)
            fun _ => .pure rfl

namespace ClusterStore

variable (store : ClusterStore) (ctx : Context)

theorem twin_attempt {f : Failure} {request : Operation (Option α)}
    (h : Twin (SameStores s₀ t₀) Eq request request) :
    Twin (SameStores s₀ t₀) Eq (attempt ctx f request) (attempt ctx f request) := by
  unfold attempt
  refine .bind (.run ((SameStores.likeness s₀ t₀).isCancelled ctx) h) fun answer _ hanswer => ?_
  cases hanswer with
  | error e => exact .pure rfl
  | @ok a _ hvalue =>
      subst hvalue
      cases a with
      | none => exact .pure rfl
      | some a => exact .pure rfl

theorem twin_writeBack (ns : String) (d : Destination) (details : Details)
    (existing : Option Secret) :
    Twin (SameStores s₀ t₀) Eq (store.writeBack ctx ns d details existing)
      (store.writeBack ctx ns d details existing) := by
  have hR := SameStores.likeness s₀ t₀
  cases existing with
  | none =>
      unfold writeBack create
      refine .andThen (twin_attempt ctx (Cluster.Client.twin_ask _ _ _ _)) fun answer => ?_
      cases answer with
      | error f => exact .pure rfl
      | ok _ => exact .andThen (Operation.twin_log hR _ _ _) fun _ => .pure rfl
  | some secret =>
      unfold writeBack replace
      simp only
      split
      · exact .andThen (Operation.twin_log hR _ _ _) fun _ => .pure rfl
      · refine .andThen (twin_attempt ctx (Cluster.Client.twin_ask _ _ _ _)) fun answer => ?_
        cases answer with
        | error f => exact .pure rfl
        | ok _ => exact .andThen (Operation.twin_log hR _ _ _) fun _ => .pure rfl

theorem twin_write (owner : Owner) (details : Details) :
    Twin (SameStores s₀ t₀) Eq (store.toStore.write ctx owner details)
      (store.toStore.write ctx owner details) := by
  simp only [toStore]
  cases owner.destination with
  | none => exact .pure rfl
  | some d =>
      refine .andThen (twin_attempt ctx (Cluster.Client.twin_ask _ _ _ _)) fun found => ?_
      cases found with
      | error f => exact .pure rfl
      | ok existing =>
          refine .andThen (Operation.twin_ensureActive (SameStores.likeness s₀ t₀) ctx)
            fun active => ?_
          cases active with
          | error e => exact .pure rfl
          | ok _ => exact store.twin_writeBack ctx _ d details existing

end ClusterStore

theorem SecretStore.twin_write_memory (id : Nat) (ctx : Context) (owner : Owner) (d : Details) :
    Twin (SameStores s₀ t₀) Eq ((memory id).write ctx owner d) ((memory id).write ctx owner d) := by
  intro s t hst
  cases hkey : MemoryStore.key? owner with
  | none =>
      rw [memory_write_none id ctx s hkey, memory_write_none id ctx t hkey]
      exact .done rfl hst
  | some key =>
      rw [memory_write_some id ctx s hkey, memory_write_some id ctx t hkey]
      refine .done rfl ?_
      unfold Session.setSecrets Session.secretsOf
      rw [hst.secrets]
      exact { hst with toInStep := { hst.toInStep with }, secrets := rfl }

end Writes

/-! ## §3. Steady stores. -/

/-- A store whose writes run in lockstep wherever nothing it works with tells the two runs
apart. -/
def SecretStore.Steady (store : SecretStore) : Prop :=
  ∀ s₀ t₀ ctx owner details, Twin (SameStores s₀ t₀) Eq (store.write ctx owner details)
    (store.write ctx owner details)

/-- **A store in memory is steady.** -/
theorem SecretStore.steady_memory (id : Nat) : (memory id).Steady :=
  fun _ _ => twin_write_memory id

/-- **A store of a cluster is steady.** -/
theorem ClusterStore.steady (store : ClusterStore) : store.toStore.Steady :=
  fun _ _ => store.twin_write

/-- **A router to steady stores is steady.** -/
theorem StoreRouter.steady {r : StoreRouter}
    (h : ∀ config store, r.stores.get? config = some store → store.Steady) : r.toStore.Steady := by
  intro s₀ t₀ ctx owner details
  rcases r.answers_or_routes owner with ⟨_, written, heq⟩ | ⟨config, store, hstore, heq⟩
  · rw [(heq ctx).2]
    exact .pure rfl
  · rw [(heq ctx).2]
    exact h config store hstore s₀ t₀ ctx owner details

end ConnectionRelay
