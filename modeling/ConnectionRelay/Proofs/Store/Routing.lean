/-
  ConnectionRelay.Proofs.Store.Routing
  ────────────────────────────────────
  **A ROUTER OVER STORES IN MEMORY.**

  A router whose stores are all in memory answers at once, and what it answers to a read
  depends on the secrets in memory alone.  Main statements:

    • `InMemory.read_eq` — a read changes nothing, and is decided by the secrets,
    • `InMemory.write_read` — a write merges its details in, and the next read finds them.
-/
import ConnectionRelay.Fetcher
import ConnectionRelay.Store.Memory
import ConnectionRelay.Store.Router

namespace ConnectionRelay

/-! ## §1. What leaves secrets alone. -/

namespace Session

/-- Nothing that a store in memory or a context looks at has changed. -/
structure Quiet (s s' : Session) : Prop where
  secrets : s'.secrets = s.secrets
  fired : s'.fired = s.fired

variable {s s' s'' : Session}

theorem Quiet.refl (s : Session) : Quiet s s := ⟨rfl, rfl⟩

theorem Quiet.trans (h : Quiet s s') (h' : Quiet s' s'') : Quiet s s'' :=
  ⟨h'.secrets.trans h.secrets, h'.fired.trans h.fired⟩

/-- Contexts stay as active as they were. -/
theorem Quiet.isCancelled_eq (h : Quiet s s') (ctx : Context) :
    ctx.isCancelled s' = ctx.isCancelled s :=
  Context.isCancelled_congr h.fired ctx

/-- A store in memory holds the secrets that were put there last. -/
theorem secretsOf_setSecrets {id : Nat} (h : id < s.secrets.length) (secrets : Dict Details) :
    (s.setSecrets id secrets).secretsOf id = secrets := by
  show (s.secrets.set id secrets).getD id .empty = secrets
  rw [List.getD_eq_getElem?_getD, List.getElem?_set_self h]
  rfl

end Session

namespace Fetcher

/-- Logging leaves the secrets and the tokens alone. -/
theorem quiet_logAbsent (owner : Owner) (keys : List String) (s : Session) :
    s.Quiet (logAbsent owner keys s).state := by
  induction keys generalizing s with
  | nil => exact .refl s
  | cons key rest ih =>
      have hlog : s.Quiet (s.note (.logged
          { level := .debug, origin := .fetcher,
            message := "Connection secret of " ++ owner.name ++ " has no key '" ++ key
              ++ "' yet, skipping" })) := ⟨rfl, rfl⟩
      exact hlog.trans (ih _)

/-- So does a report of what was selected. -/
theorem quiet_report (owner : Owner) (selection : Selection) (s : Session) :
    s.Quiet (report owner selection s).state := by
  have habsent := quiet_logAbsent owner selection.absent s
  unfold report
  rw [Task.bind_apply, logAbsent_apply]
  cases selection.result with
  | error e => exact habsent
  | ok fetched =>
      cases fetched with
      | none => exact habsent
      | some details => exact habsent.trans ⟨rfl, rfl⟩

end Fetcher

/-! ## §2. Routers. -/

/-- Are the stores of a router stores in memory that exist in a session? -/
def StoreRouter.InMemory (r : StoreRouter) (s : Session) : Prop :=
  ∀ config store, r.stores.get? config = some store →
    ∃ id < s.secrets.length, store = SecretStore.memory id

namespace StoreRouter.InMemory

variable {r : StoreRouter} {s s' : Session} {owner : Owner} {d : Destination}

/-- They exist as long as no store in memory is taken away. -/
theorem mono (h : r.InMemory s) (hlength : s.secrets.length ≤ s'.secrets.length) :
    r.InMemory s' := by
  intro config store hstore
  obtain ⟨id, hid, hmemory⟩ := h config store hstore
  exact ⟨id, Nat.lt_of_lt_of_le hid hlength, hmemory⟩

theorem quiet (h : r.InMemory s) (hquiet : s.Quiet s') : r.InMemory s' :=
  h.mono (Nat.le_of_eq (congrArg List.length hquiet.secrets.symm))

/-- The store of a destination is in memory. -/
theorem route (h : r.InMemory s) {store : SecretStore} (hroute : r.route d = .ok store) :
    ∃ id < s.secrets.length, store = SecretStore.memory id := by
  unfold StoreRouter.route at hroute
  cases hget : r.stores.get? (d.storeConfig r.default) with
  | none => simp [hget] at hroute
  | some found =>
      simp only [hget] at hroute
      cases hroute
      exact h _ _ hget

/-- A read ends at once, changes nothing, and depends on the secrets alone. -/
theorem read_eq (h : r.InMemory s) (owner : Owner) :
    ∃ answer : List (Dict Details) → Except Failure (Option Details),
      ∀ (ctx : Context) (s' : Session),
        r.toStore.read ctx owner s' = .done (answer s'.secrets) s' := by
  -- an owner without a destination is read as well, and one of an unknown store config
  cases hdestination : owner.destination with
  | none =>
      refine ⟨fun _ => .ok none, fun ctx s' => ?_⟩
      simp only [toStore, hdestination]
      rfl
  | some d =>
      cases hroute : r.route d with
      | error f =>
          refine ⟨fun _ => .error f, fun ctx s' => ?_⟩
          simp only [toStore, hdestination, hroute]
          rfl
      | ok store =>
          obtain ⟨id, -, rfl⟩ := h.route hroute
          refine ⟨fun secrets =>
            .ok ((MemoryStore.key? owner).bind (secrets.getD id .empty).get?), fun ctx s' => ?_⟩
          simp only [toStore, hdestination, hroute]
          rfl

/-- A write to a registered store merges its details in.  The next read finds them. -/
theorem write_read (h : r.InMemory s) (hdestination : owner.destination = some d)
    {store : SecretStore} (hroute : r.route d = .ok store) (ctx : Context) (details : Details) :
    ∃ (previous : Option Details) (s' : Session),
      r.toStore.read ctx owner s = .done (.ok previous) s
        ∧ r.toStore.write ctx owner details s = .done (.ok ()) s'
        ∧ ∀ s'', s'.Quiet s'' → r.toStore.read ctx owner s''
            = .done (.ok (some ((previous.getD .empty).merge details))) s'' := by
  obtain ⟨id, hid, rfl⟩ := h.route hroute
  obtain ⟨key, hkey⟩ : ∃ key, MemoryStore.key? owner = some key := by
    simp [MemoryStore.key?, hdestination]
  have hread : ∀ s', r.toStore.read ctx owner s' = .done (.ok ((s'.secretsOf id).get? key)) s' := by
    intro s'
    simp only [toStore, hdestination, hroute, SecretStore.memory_read, hkey, Option.bind_some]
  let put := MemoryStore.put (s.secretsOf id) key details
  refine ⟨(s.secretsOf id).get? key, s.setSecrets id put, hread s, ?_, fun s'' hquiet => ?_⟩
  · simp only [toStore, hdestination, hroute]
    exact SecretStore.memory_write_some id ctx s hkey details
  · have hsecrets : s''.secretsOf id = put := by
      show s''.secrets.getD id .empty = put
      rw [hquiet.secrets]
      exact Session.secretsOf_setSecrets hid put
    rw [hread, hsecrets, MemoryStore.get?_put, if_pos rfl]

end StoreRouter.InMemory

end ConnectionRelay
