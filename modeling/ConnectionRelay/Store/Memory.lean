/-
  ConnectionRelay.Store.Memory
  ────────────────────────────
  **SECRETS IN MEMORY.**

  The secrets of an in-memory store are kept under a key made of the store config,
  the namespace of an owner that has one, and the name of the secret.
-/
import ConnectionRelay.Store.Basic

namespace ConnectionRelay

namespace MemoryStore

/-- The key of an owner's secret. -/
def key? (owner : Owner) : Option String :=
  owner.destination.map fun d =>
    let config := d.storeConfig defaultStoreConfig
    match owner.ns with
    | some ns => config ++ "/" ++ ns ++ "/" ++ d.name
    | none => config ++ "/" ++ d.name

theorem key?_none {owner : Owner} (h : owner.destination = none) : key? owner = none := by
  unfold key?
  rw [h]
  rfl

/-- Merge details into the secret of a key. -/
def put (secrets : Dict Details) (key : String) (d : Details) : Dict Details :=
  secrets.insert key (((secrets.get? key).getD .empty).merge d)

theorem get?_put (secrets : Dict Details) (key q : String) (d : Details) :
    (put secrets key d).get? q =
      if q = key then some (((secrets.get? key).getD .empty).merge d)
      else secrets.get? q := by
  simp [put]

end MemoryStore

/-- The in-memory store of a number. -/
def SecretStore.memory (id : Nat) : SecretStore where
  read _ owner := do
    let s ← Task.get
    pure (.ok ((MemoryStore.key? owner).bind (s.secretsOf id).get?))
  write _ owner d :=
    match MemoryStore.key? owner with
    | none => pure (.error (.noDestination owner))
    | some key => do
        Task.modify fun s => s.setSecrets id (MemoryStore.put (s.secretsOf id) key d)
        pure (.ok ())

namespace SecretStore

variable (id : Nat) (ctx : Context) {owner : Owner} (s : Session)

theorem memory_read : (memory id).read ctx owner s
    = .done (.ok ((MemoryStore.key? owner).bind (s.secretsOf id).get?)) s := rfl

theorem memory_write_none (h : MemoryStore.key? owner = none) (d : Details) :
    (memory id).write ctx owner d s = .done (.error (.noDestination owner)) s := by
  simp only [memory, h]
  rfl

theorem memory_write_some {key : String} (h : MemoryStore.key? owner = some key) (d : Details) :
    (memory id).write ctx owner d s
      = .done (.ok ()) (s.setSecrets id (MemoryStore.put (s.secretsOf id) key d)) := by
  simp only [memory, h]
  rfl

end SecretStore

end ConnectionRelay
