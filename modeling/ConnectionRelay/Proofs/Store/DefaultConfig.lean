/-
  ConnectionRelay.Proofs.Store.DefaultConfig
  ──────────────────────────────────────────
  **LEAVING THE STORE CONFIG OUT, AND NAMING THE DEFAULT ONE.**

  A destination may leave its store config out.  A router then takes its own default, and
  hands the owner on as it is; so a router behind it takes another default again, and a store
  in memory keeps the secret under the default of all stores.  An owner that names the
  default of the router is handed on with that name.  Main statement: the two are treated
  alike by nested routers that all have the default of all stores, and by a router over a
  store in memory only if it has it (`unnamed_as_named`).
-/
import ConnectionRelay.Proofs.Store.MemoryKey
import ConnectionRelay.Store.Router

namespace ConnectionRelay

/-! ## §1. Owners that are treated alike. -/

/-- The destination with its store config named. -/
def Destination.naming (d : Destination) (config : String) : Destination :=
  { d with configRef := some ⟨config⟩ }

/-- The owner with the store config of its destination named. -/
def Owner.naming (o : Owner) (config : String) : Owner :=
  { o with destination := o.destination.map (·.naming config) }

/-- A store treats two owners alike: with the same results, and the same effect. -/
structure SecretStore.Alike (store : SecretStore) (o o' : Owner) : Prop where
  read : ∀ ctx, store.read ctx o = store.read ctx o'
  write : ∀ ctx details, store.write ctx o details = store.write ctx o' details

/-- Stores in memory, and routers over such stores or over further routers; all of the
routers have a default of a given kind. -/
inductive SecretStore.Routed (kind : String → Prop) : SecretStore → Prop where
  | memory (id : Nat) : Routed kind (memory id)
  | router (r : StoreRouter) (hdefault : kind r.default)
      (hstores : ∀ config store, r.stores.get? config = some store → Routed kind store) :
      Routed kind r.toStore

variable {o : Owner} {d : Destination} {config : String}

theorem Owner.destination_naming (hd : o.destination = some d) :
    (o.naming config).destination = some (d.naming config) := by
  unfold Owner.naming
  rw [hd]
  rfl

theorem Destination.storeConfig_unnamed (h : d.configRef = none) (default : String) :
    d.storeConfig default = default := by
  unfold Destination.storeConfig
  rw [h]

/-! ## §2. Stores in memory. -/

namespace MemoryStore

/-- Naming a store config changes nothing in what stands behind it. -/
theorem keyFor_naming : keyFor (o.naming config) (d.naming config) = config ++ "/" ++ restFor o d :=
  rfl

theorem keyFor_unnamed (h : d.configRef = none) :
    keyFor o d = defaultStoreConfig ++ "/" ++ restFor o d := by
  unfold keyFor
  rw [d.storeConfig_unnamed h]

/-- The same key is left only where the default of all stores is named. -/
theorem keyFor_naming_eq_iff (h : d.configRef = none) :
    keyFor o d = keyFor (o.naming config) (d.naming config) ↔ config = defaultStoreConfig := by
  rw [keyFor_unnamed h, keyFor_naming]
  constructor
  · intro hkey
    have hlist : defaultStoreConfig.toList ++ ("/" ++ restFor o d).toList
        = config.toList ++ ("/" ++ restFor o d).toList := by
      have htext := congrArg String.toList hkey
      simpa [String.toList_append] using htext
    exact (String.toList_inj.1 (List.append_cancel_right hlist)).symm
  · intro hconfig
    rw [hconfig]

end MemoryStore

namespace SecretStore

variable {id : Nat} {o' : Owner} {d' : Destination}

/-- Owners with the same key are treated alike. -/
theorem alike_memory (hd : o.destination = some d) (hd' : o'.destination = some d')
    (hkey : MemoryStore.keyFor o d = MemoryStore.keyFor o' d') : (memory id).Alike o o' := by
  have hsame : MemoryStore.key? o = MemoryStore.key? o' := by
    rw [MemoryStore.key?_eq hd, MemoryStore.key?_eq hd', hkey]
  constructor
  · intro ctx
    simp only [memory, hsame]
  · intro ctx details
    simp only [memory, MemoryStore.key?_eq hd, MemoryStore.key?_eq hd', hkey]

/-- A session in which a store in memory has an empty secret under one key. -/
def sole (id : Nat) (key : String) : Session :=
  { secrets := List.replicate (id + 1) (.ofList [(key, .empty)]) }

theorem get?_sole (key q : String) :
    ((sole id key).secretsOf id).get? q = if q = key then some .empty else none := by
  have hsecrets : (sole id key).secretsOf id = .ofList [(key, .empty)] := by
    show (List.replicate (id + 1) (Dict.ofList [(key, Dict.empty)])).getD id .empty = _
    rw [List.getD_eq_getElem?_getD, List.getElem?_replicate, if_pos (Nat.lt_succ_self id)]
    rfl
  rw [hsecrets]
  exact Dict.get?_insert Dict.empty key q Dict.empty

/-- Owners that are treated alike have the same key. -/
theorem keyFor_of_alike (hd : o.destination = some d) (hd' : o'.destination = some d')
    (h : (memory id).Alike o o') : MemoryStore.keyFor o d = MemoryStore.keyFor o' d' := by
  -- a session that only has a secret of the first tells them apart
  have hread := congrFun (h.read ⟨[]⟩) (sole id (MemoryStore.keyFor o d))
  rw [memory_read, memory_read, MemoryStore.key?_eq hd, MemoryStore.key?_eq hd', Option.bind_some,
    Option.bind_some, get?_sole, get?_sole, if_pos rfl] at hread
  by_cases hkey : MemoryStore.keyFor o' d' = MemoryStore.keyFor o d
  · exact hkey.symm
  · rw [if_neg hkey] at hread
    cases hread

end SecretStore

/-! ## §3. Routers. -/

namespace StoreRouter

variable {r : StoreRouter} {store : SecretStore}

/-- Where it is the router that decides, leaving the store config out is naming its default. -/
theorem route_naming (h : d.configRef = none) : r.route d = r.route (d.naming r.default) := by
  have hconfig : d.storeConfig r.default = (d.naming r.default).storeConfig r.default :=
    d.storeConfig_unnamed h r.default
  unfold route
  rw [hconfig]

theorem read_of_route (hd : o.destination = some d) (h : r.route d = .ok store) (ctx : Context) :
    r.toStore.read ctx o = store.read ctx o := by
  simp only [toStore, hd, h]

theorem write_of_route (hd : o.destination = some d) (h : r.route d = .ok store) (ctx : Context)
    (details : Details) : r.toStore.write ctx o details = store.write ctx o details := by
  simp only [toStore, hd, h]

section Alike

variable {o' : Owner} {d' : Destination}

/-- A router treats the owners that it hands on to one store as that store does. -/
theorem alike_iff_of_route (hd : o.destination = some d) (hd' : o'.destination = some d')
    (h : r.route d = .ok store) (h' : r.route d' = .ok store) :
    r.toStore.Alike o o' ↔ store.Alike o o' := by
  constructor
  · intro halike
    constructor
    · intro ctx
      rw [← read_of_route hd h, ← read_of_route hd' h', halike.read]
    · intro ctx details
      rw [← write_of_route hd h, ← write_of_route hd' h', halike.write]
  · intro halike
    constructor
    · intro ctx
      rw [read_of_route hd h, read_of_route hd' h', halike.read]
    · intro ctx details
      rw [write_of_route hd h, write_of_route hd' h', halike.write]

/-- Owners of a store config that is not registered get the same error. -/
theorem alike_of_error {f : Failure} (hd : o.destination = some d) (hd' : o'.destination = some d')
    (h : r.route d = .error f) (h' : r.route d' = .error f) : r.toStore.Alike o o' := by
  constructor
  · intro ctx
    simp only [toStore, hd, hd', h, h']
  · intro ctx details
    simp only [toStore, hd, hd', h, h']

end Alike

theorem get?_of_route (h : r.route d = .ok store) :
    r.stores.get? (d.storeConfig r.default) = some store := by
  unfold route at h
  cases hget : r.stores.get? (d.storeConfig r.default) with
  | none => simp [hget] at h
  | some found =>
      simp only [hget] at h
      cases h
      rfl

theorem route_of_get? (h : r.stores.get? (d.storeConfig r.default) = some store) :
    r.route d = .ok store := by
  unfold route
  simp only [h]

end StoreRouter

/-- Routers that all have the default of all stores treat an owner that leaves its store
config out as one that names it. -/
theorem SecretStore.Routed.alike {store : SecretStore} (hd : o.destination = some d)
    (hunnamed : d.configRef = none) (h : store.Routed (· = defaultStoreConfig)) :
    store.Alike o (o.naming defaultStoreConfig) := by
  -- on how the routers are nested; each hands both owners on to the same store
  induction h with
  | memory id =>
      exact alike_memory hd (Owner.destination_naming hd)
        ((MemoryStore.keyFor_naming_eq_iff hunnamed).2 rfl)
  | router r hdefault hstores ih =>
      have hd' : (o.naming defaultStoreConfig).destination = some (d.naming defaultStoreConfig) :=
        Owner.destination_naming hd
      have hroute : r.route d = r.route (d.naming defaultStoreConfig) := by
        rw [StoreRouter.route_naming hunnamed, hdefault]
      cases hfound : r.route (d.naming defaultStoreConfig) with
      | error f => exact StoreRouter.alike_of_error hd hd' (hroute.trans hfound) hfound
      | ok store =>
          refine (StoreRouter.alike_iff_of_route hd hd' (hroute.trans hfound) hfound).2 ?_
          exact ih _ store (StoreRouter.get?_of_route hfound)

/-- **Leaving the store config out, and naming the default one.**  A router hands both owners
on to the same store.  They are treated alike if it has the default of all stores, and so do
all routers behind it; and if the store is in memory, only if it has it. -/
theorem unnamed_as_named (r : StoreRouter) {o : Owner} {d : Destination}
    (hd : o.destination = some d) (hunnamed : d.configRef = none) :
    r.route d = r.route (d.naming r.default)
      ∧ (r.default = defaultStoreConfig →
          (∀ config store, r.stores.get? config = some store →
            store.Routed (· = defaultStoreConfig)) →
          r.toStore.Alike o (o.naming r.default))
      ∧ ∀ id, r.stores.get? r.default = some (.memory id) →
          (r.toStore.Alike o (o.naming r.default) ↔ r.default = defaultStoreConfig) := by
  have hd' : (o.naming r.default).destination = some (d.naming r.default) :=
    Owner.destination_naming hd
  have hroute : r.route d = r.route (d.naming r.default) := StoreRouter.route_naming hunnamed
  refine ⟨hroute, fun hdefault hstores => ?_, fun id hid => ?_⟩
  · rw [hdefault]
    exact (SecretStore.Routed.router r hdefault hstores).alike hd hunnamed
  · have hmemory : r.route (d.naming r.default) = .ok (.memory id) := StoreRouter.route_of_get? hid
    rw [StoreRouter.alike_iff_of_route hd hd' (hroute.trans hmemory) hmemory,
      ← MemoryStore.keyFor_naming_eq_iff hunnamed]
    exact ⟨SecretStore.keyFor_of_alike hd hd', SecretStore.alike_memory hd hd'⟩

/-! ## §4. A default that is not that of all stores. -/

namespace Vault

/-- A router over one store in memory, with a default of its own. -/
def router : StoreRouter := StoreRouter.register { default := "vault" } "vault" (.memory 0)

/-- A destination that leaves its store config out. -/
def destination : Destination := { name := "conn" }

/-- An owner that leaves its store config out. -/
def owner : Owner := ⟨"bucket", none, some destination⟩

/-- A session with one store in memory, which is empty. -/
def start : Session := { secrets := [.empty] }

/-- What is written. -/
def password : Details := .ofList [("password", [7])]

theorem get?_router (config : String) :
    router.stores.get? config = if config = "vault" then some (.memory 0) else none :=
  Dict.get?_insert .empty "vault" config _

theorem routed : router.toStore.Routed fun _ => True := by
  refine .router router trivial fun config store hstore => ?_
  rw [get?_router] at hstore
  split at hstore
  · cases hstore
    exact .memory 0
  · cases hstore

end Vault

open Vault in
/-- The router of the vault does not treat the two owners alike. -/
theorem vault_not_alike : ¬ router.toStore.Alike owner (owner.naming "vault") := by
  have hmemory : router.stores.get? router.default = some (.memory 0) :=
    (get?_router "vault").trans (if_pos rfl)
  have hiff := (unnamed_as_named router (show owner.destination = some destination from rfl)
    (show destination.configRef = none from rfl)).2.2 0 hmemory
  intro halike
  exact absurd (hiff.1 halike) (by decide)

open Vault in
/-- **Details that are not read back.**  It is not so that, under every router, what is written
for an owner that names the default of the router is read for the owner that leaves its store
config out. -/
theorem unnamed_misses_named :
    ¬ ∀ (r : StoreRouter) (o : Owner) (d : Destination), r.toStore.Routed (fun _ => True) →
      o.destination = some d → d.configRef = none →
      ∀ (ctx : Context) (s s' : Session) (details : Details),
        (r.toStore.write ctx (o.naming r.default) details s).finish = some (.ok (), s') →
        (r.toStore.read ctx o s').finish
          = (r.toStore.read ctx (o.naming r.default) s').finish := by
  intro hback
  have hwrite : (router.toStore.write ⟨[0]⟩ (owner.naming router.default) password start).finish
      = some (.ok (), start.setSecrets 0 (.ofList [("vault/conn", password)])) := rfl
  have hread := hback router owner destination routed rfl rfl ⟨[0]⟩ start _ password hwrite
  cases hread

end ConnectionRelay
