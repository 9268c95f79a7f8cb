/-
  ConnectionRelay.Proofs.Store.SparingStores
  ──────────────────────────────────────────
  **WHAT STORES AND UPDATERS LEAVE ALONE.**

  The exchange with a cluster has no part in the counters, nor in the secrets in memory, and
  the same holds for the calls of a script.  A store in memory counts nothing either, and a
  write to it changes the secrets only by succeeding.  Main statements, for the stores of the
  relay and for those that follow a script:

    • `SecretStore.CountsNothing` — they count nothing themselves,
    • `SecretStore.ChangesBySuccess` — a write of theirs that does not succeed leaves the
      secrets in memory alone.
-/
import ConnectionRelay.Proofs.Task.Sparing
import ConnectionRelay.Script
import ConnectionRelay.Store.Cluster
import ConnectionRelay.Store.Memory
import ConnectionRelay.Store.Router

namespace ConnectionRelay

variable {α β : Type}

/-! ## §1. The exchange with a cluster. -/

/-- The part of a session that the exchange with clusters has no part in. -/
def Session.aside (s : Session) : Counters × List (Dict Details) := (s.counters, s.secrets)

theorem Session.aside_cancelNamed (s : Session) (name : Option String) :
    (s.cancelNamed name).aside = s.aside := by
  unfold cancelNamed
  cases name.bind s.context? with
  | none => rfl
  | some ctx =>
      show (s.cancel ctx).aside = s.aside
      unfold cancel
      cases ctx.token? <;> rfl

open Session (aside)

theorem Operation.spares_log (level : Level) (origin : Origin) (message : String) :
    (log level origin message).Spares aside := .modify fun _ => rfl

theorem Operation.spares_send (cluster : String) (request : Cluster.Request) :
    (send cluster request).Spares aside := by
  refine .bind (.modify fun _ => rfl) fun _ => .bind .pause fun _ => ?_
  refine .bind (.modify fun _ => rfl) fun _ => .bind .get fun s => ?_
  refine .bind (.modify fun s => Session.aside_cancelNamed _ _) fun _ => ?_
  -- the rule of the server lets it hang, break the connection, or respond
  split
  · exact .hang
  · split
    · exact .pure _
    · exact .bind .get fun s => .bind (.modify fun _ => rfl) fun _ => .pure _

theorem Cluster.Client.spares_ask (cluster : String) (request : Option Cluster.Request)
    (decode : Wire.Decoder α) (look : Cluster.Response → Option β) :
    (ask cluster request decode look).Spares aside := by
  unfold ask
  cases request with
  | none => exact .pure _
  | some request =>
      refine .bind (Operation.spares_send cluster request) fun answer => ?_
      cases answer with
      | none => exact .pure _
      | some response => exact .bind (.modify fun _ => rfl) fun _ => .pure _

namespace ClusterStore

variable (store : ClusterStore) (ctx : Context)

theorem spares_attempt {f : Failure} {request : Operation (Option α)} (h : request.Spares aside) :
    (attempt ctx f request).Spares aside := by
  refine .bind (.run ctx h) fun answer => ?_
  rcases answer with e | _ | a <;> exact .pure _

theorem spares_writeBack (ns : String) (d : Destination) (details : Details)
    (existing : Option Cluster.Secret) :
    (store.writeBack ctx ns d details existing).Spares aside := by
  cases existing with
  | none =>
      refine .bind (spares_attempt ctx (Cluster.Client.spares_ask _ _ _ _)) fun answer => ?_
      cases answer with
      | error f => exact .pure _
      | ok _ => exact .bind (Operation.spares_log _ _ _) fun _ => .pure _
  | some secret =>
      unfold writeBack
      simp only
      split
      · exact .bind (Operation.spares_log _ _ _) fun _ => .pure _
      · refine .bind (spares_attempt ctx (Cluster.Client.spares_ask _ _ _ _)) fun answer => ?_
        cases answer with
        | error f => exact .pure _
        | ok _ => exact .bind (Operation.spares_log _ _ _) fun _ => .pure _

theorem spares_read (owner : Owner) : (store.toStore.read ctx owner).Spares aside := by
  simp only [toStore]
  cases owner.destination with
  | none => exact .pure _
  | some d =>
      exact .bind (spares_attempt ctx (Cluster.Client.spares_ask _ _ _ _)) fun _ => .pure _

theorem spares_write (owner : Owner) (details : Details) :
    (store.toStore.write ctx owner details).Spares aside := by
  simp only [toStore]
  cases owner.destination with
  | none => exact .pure _
  | some d =>
      refine .bind (spares_attempt ctx (Cluster.Client.spares_ask _ _ _ _)) fun found => ?_
      cases found with
      | error f => exact .pure _
      | ok existing =>
          refine .bind (.ensureActive ctx) fun active => ?_
          cases active with
          | error e => exact .pure _
          | ok _ => exact store.spares_writeBack ctx _ d details existing

end ClusterStore

/-! ## §2. Scripts. -/

theorem Script.spares_call (script : Script α) (id : Nat) (default : α) :
    (script.call id default).Spares aside := by
  refine .bind .get fun s => .bind (.modify fun s => Session.aside_cancelNamed _ _) fun _ => ?_
  split
  · exact .hang
  · split
    · exact .bind .pause fun _ => .pure _
    · exact .pure _

/-! ## §3. Stores. -/

namespace SecretStore

/-- Reads and writes of the store count nothing themselves. -/
structure CountsNothing (store : SecretStore) : Prop where
  read : ∀ ctx owner, (store.read ctx owner).Spares Session.counters
  write : ∀ ctx owner details, (store.write ctx owner details).Spares Session.counters

/-- A write of the store changes the secrets in memory only by succeeding. -/
def ChangesBySuccess (store : SecretStore) : Prop :=
  ∀ ctx owner details,
    (store.write ctx owner details).SparesUnless Session.secrets fun r => r = .ok ()

/-- A store in memory counts nothing. -/
theorem countsNothing_memory (id : Nat) : (memory id).CountsNothing where
  read ctx owner := .bind .get fun _ => .pure _
  write ctx owner details := by
    intro s
    cases hkey : MemoryStore.key? owner with
    | none =>
        rw [memory_write_none id ctx s hkey]
        exact .done fun _ => rfl
    | some key =>
        rw [memory_write_some id ctx s hkey]
        exact .done fun _ => rfl

/-- **A write to a store in memory** changes its secrets only by succeeding. -/
theorem changesBySuccess_memory (id : Nat) : (memory id).ChangesBySuccess := by
  intro ctx owner details s
  cases hkey : MemoryStore.key? owner with
  | none =>
      rw [memory_write_none id ctx s hkey]
      exact .done fun _ => rfl
  | some key =>
      rw [memory_write_some id ctx s hkey]
      exact .done fun hfailed => absurd rfl hfailed

variable {readId writeId : Nat} {reads : Script (Except Failure (Option Details))}
  {writes : Script (Except Failure Unit)}

/-- A store that follows a script counts nothing. -/
theorem countsNothing_scripted : (scripted readId writeId reads writes).CountsNothing where
  read _ _ := (Script.spares_call _ _ _).comp Prod.fst
  write _ _ _ := (Script.spares_call _ _ _).comp Prod.fst

/-- A store that follows a script leaves the secrets in memory alone. -/
theorem changesBySuccess_scripted : (scripted readId writeId reads writes).ChangesBySuccess :=
  fun _ _ _ => ((Script.spares_call _ _ _).comp Prod.snd).toUnless _

end SecretStore

open SecretStore

/-- A store of a cluster counts nothing. -/
theorem ClusterStore.countsNothing (store : ClusterStore) : store.toStore.CountsNothing where
  read ctx owner := (store.spares_read ctx owner).comp Prod.fst
  write ctx owner details := (store.spares_write ctx owner details).comp Prod.fst

/-- A store of a cluster leaves the secrets in memory alone. -/
theorem ClusterStore.changesBySuccess (store : ClusterStore) : store.toStore.ChangesBySuccess :=
  fun ctx owner details => ((store.spares_write ctx owner details).comp Prod.snd).toUnless _

namespace StoreRouter

variable {r : StoreRouter}

/-- **A router** counts nothing if its stores count nothing. -/
theorem countsNothing
    (h : ∀ config store, r.stores.get? config = some store → store.CountsNothing) :
    r.toStore.CountsNothing where
  read ctx owner := by
    rcases r.answers_or_routes owner with ⟨found, _, heq⟩ | ⟨config, store, hstore, heq⟩
    · rw [(heq ctx).1]
      exact .pure found
    · rw [(heq ctx).1]
      exact (h config store hstore).read ctx owner
  write ctx owner details := by
    rcases r.answers_or_routes owner with ⟨_, written, heq⟩ | ⟨config, store, hstore, heq⟩
    · rw [(heq ctx).2]
      exact .pure written
    · rw [(heq ctx).2]
      exact (h config store hstore).write ctx owner details

/-- **A write to a router** changes the secrets in memory only by succeeding if this is true of
its stores. -/
theorem changesBySuccess
    (h : ∀ config store, r.stores.get? config = some store → store.ChangesBySuccess) :
    r.toStore.ChangesBySuccess := by
  intro ctx owner details
  rcases r.answers_or_routes owner with ⟨_, written, heq⟩ | ⟨config, store, hstore, heq⟩
  · rw [(heq ctx).2]
    exact (Task.Spares.pure written).toUnless _
  · rw [(heq ctx).2]
    exact h config store hstore ctx owner details

end StoreRouter

/-! ## §4. Updaters. -/

namespace Updater

/-- The updater counts nothing itself. -/
def CountsNothing (updater : Updater) : Prop :=
  ∀ ctx, (updater ctx).Spares fun st => st.1.counters

theorem spares_takeOver (r : Cluster.ApiResource) (name : String) (stored : Cluster.DynamicObject) :
    (takeOver r name stored).Spares fun st => aside st.1 := by
  refine .bind (.onFirst (Operation.spares_log _ _ _)) fun _ => ?_
  split
  · exact .pure _
  · exact .bind (.modify fun _ => rfl) fun _ => .pure _

/-- **The updater of a cluster** counts nothing. -/
theorem countsNothing_ofCluster (cluster : String) : (ofCluster cluster).CountsNothing := by
  intro ctx
  have h : (ofCluster cluster ctx).Spares fun st => aside st.1 := by
    have hcomposite : CompositeTask.composite.Spares fun st => aside st.1 := fun _ =>
      .done fun _ => rfl
    refine .bind hcomposite fun composite => ?_
    split
    · exact .pure _
    · exact .pure _
    · refine .bind ?_ fun answer => ?_
      · refine .bind (.run ctx (.onFirst (Cluster.Client.spares_ask _ _ _ _))) fun answer => ?_
        rcases answer with e | _ | stored <;> exact .pure _
      · cases answer with
        | error f => exact .pure _
        | ok stored => exact spares_takeOver _ _ stored
  exact h.comp Prod.fst

/-- An updater that follows a script counts nothing. -/
theorem countsNothing_scripted (id : Nat) (script : Script Update) :
    (scripted id script).CountsNothing := by
  intro ctx
  have h : (scripted id script ctx).Spares fun st => aside st.1 := by
    refine .bind (.onFirst (Script.spares_call _ _ _)) fun update => ?_
    split
    · exact .pure _
    · exact .bind (.modify fun _ => rfl) fun _ => .pure _
    · exact .pure _
  exact h.comp Prod.fst

end Updater

end ConnectionRelay
