/-
  ConnectionRelay.Store.Router
  ────────────────────────────
  **ONE STORE FOR EACH STORE CONFIG.**

  A router passes reads and writes on to the store registered under the store config
  of the owner's destination.
-/
import ConnectionRelay.Store.Basic
import ConnectionRelay.Text.Quoted

namespace ConnectionRelay

/-- Stores by store config. -/
structure StoreRouter where
  stores : Dict SecretStore := .empty
  /-- The store config of destinations that name none. -/
  default : String := defaultStoreConfig

namespace StoreRouter

/-- Register a store under a store config. -/
def register (r : StoreRouter) (config : String) (store : SecretStore) : StoreRouter :=
  { r with stores := r.stores.insert config store }

/-- The store of a destination. -/
def route (r : StoreRouter) (d : Destination) : Except Failure SecretStore :=
  let config := d.storeConfig r.default
  match r.stores.get? config with
  | some store => .ok store
  | none => .error (.plain ("store config '" ++ config ++ "' is not registered"))

/-- The router as a store. -/
def toStore (r : StoreRouter) : SecretStore where
  read ctx owner :=
    match owner.destination with
    | none => pure (.ok none)
    | some d =>
        match r.route d with
        | .ok store => store.read ctx owner
        | .error f => pure (.error f)
  write ctx owner details :=
    match owner.destination with
    | none => pure (.error (.noDestination owner))
    | some d =>
        match r.route d with
        | .ok store => store.write ctx owner details
        | .error f => pure (.error f)

/-- A router answers for an owner itself, or hands it on to one of its stores. -/
theorem answers_or_routes (r : StoreRouter) (owner : Owner) :
    (∃ found written, ∀ ctx,
        r.toStore.read ctx owner = pure found
          ∧ ∀ details, r.toStore.write ctx owner details = pure written)
      ∨ ∃ config store, r.stores.get? config = some store ∧ ∀ ctx,
        r.toStore.read ctx owner = store.read ctx owner
          ∧ ∀ details, r.toStore.write ctx owner details = store.write ctx owner details := by
  simp only [toStore]
  cases owner.destination with
  | none => exact .inl ⟨_, _, fun _ => ⟨rfl, fun _ => rfl⟩⟩
  | some d =>
      simp only [route]
      cases hstore : r.stores.get? (d.storeConfig r.default) with
      | none => exact .inl ⟨_, _, fun _ => ⟨rfl, fun _ => rfl⟩⟩
      | some store => exact .inr ⟨_, store, hstore, fun _ => ⟨rfl, fun _ => rfl⟩⟩

/-- What a router looks like in messages. -/
def describe (r : StoreRouter) : String :=
  "StoreConfigRouter \x7b stores: ["
    ++ String.intercalate ", " (r.stores.keys.map Text.quoted)
    ++ "], default_store_config: " ++ Text.quoted r.default ++ " \x7d"

end StoreRouter

end ConnectionRelay
