/-
  ConnectionRelay.Proofs.Store.Isolation
  ──────────────────────────────────────
  **WHOSE SECRET A WRITE CHANGES.**

  In a store in memory a write for one owner is seen by another owner exactly if both have
  the same key.  Owners whose names have no slashes in them have the same key for the same
  secret only; but a slash in a store config, a namespace or a name can make two secrets
  one.  Main statements:

    • `read_after_write` — what every owner reads after a write,
    • `shared_across_configs` — secrets of the same name in two store configs that are one.
-/
import ConnectionRelay.Proofs.Store.MemoryKey
import ConnectionRelay.Proofs.Store.Routing

namespace ConnectionRelay

open MemoryStore

/-! ## §1. Reads and writes under a key. -/

namespace SecretStore

variable {id : Nat} {s : Session} {o o' : Owner} {d d' : Destination} {ctx : Context}

/-- A read finds what is kept under the key of the owner. -/
theorem finish_memory_read (hd : o.destination = some d) :
    ((memory id).read ctx o s).finish = some (.ok ((s.secretsOf id).get? (keyFor o d)), s) := by
  rw [memory_read, key?_eq hd]
  rfl

/-- A write merges its details into what is kept under the key of the owner. -/
theorem finish_memory_write (hd : o.destination = some d) (details : Details) :
    ((memory id).write ctx o details s).finish
      = some (.ok (), s.setSecrets id (put (s.secretsOf id) (keyFor o d) details)) := by
  rw [memory_write_some id ctx s (key?_eq hd)]
  rfl

end SecretStore

/-! ## §2. Isolation. -/

/-- **What every owner reads after a write.**  A write for one owner changes what another one
reads only if both have the same key, and then its details are merged in.  Owners whose keys
have no slashes in their parts have the same key exactly if they publish to the same secret:
in the same store config, in the same namespace, under the same name. -/
theorem read_after_write {id : Nat} {s : Session} (hid : id < s.secrets.length) {o o' : Owner}
    {d d' : Destination} (hd : o.destination = some d) (hd' : o'.destination = some d')
    (ctx ctx' : Context) (details : Details) :
    ∃ (before after : Option Details) (s' : Session),
      ((SecretStore.memory id).read ctx' o' s).finish = some (.ok before, s)
        ∧ ((SecretStore.memory id).write ctx o details s).finish = some (.ok (), s')
        ∧ ((SecretStore.memory id).read ctx' o' s').finish = some (.ok after, s')
        ∧ (after ≠ before → keyFor o d = keyFor o' d')
        ∧ (keyFor o d = keyFor o' d' → after = some ((before.getD .empty).merge details))
        ∧ (Unslashed o d → Unslashed o' d' →
            (keyFor o d = keyFor o' d' ↔ SameSecret o d o' d')) := by
  let written := put (s.secretsOf id) (keyFor o d) details
  have hsecrets : (s.setSecrets id written).secretsOf id = written :=
    Session.secretsOf_setSecrets hid written
  refine ⟨_, _, s.setSecrets id written, SecretStore.finish_memory_read hd',
    SecretStore.finish_memory_write hd details, SecretStore.finish_memory_read hd', ?_, ?_,
    keyFor_eq_iff⟩
  · intro hchanged
    rw [hsecrets, get?_put] at hchanged
    by_cases hkey : keyFor o' d' = keyFor o d
    · exact hkey.symm
    · rw [if_neg hkey] at hchanged
      exact absurd rfl hchanged
  · intro hkey
    rw [hsecrets, get?_put, if_pos hkey.symm, ← hkey]

/-! ## §3. Owners of one name. -/

namespace OneName

/-- An owner in a namespace. -/
def tenant : Owner := ⟨"tenant", some "team-a", some (.inStore "conn" "default")⟩

/-- An owner without a namespace, in a store config that looks like the other's with the
namespace behind it. -/
def stranger : Owner := ⟨"stranger", none, some (.inStore "conn" "default/team-a")⟩

/-- An owner in another namespace. -/
def neighbour : Owner := ⟨"neighbour", some "team-b", some (.inStore "conn" "default")⟩

/-- A session with one store in memory, which is empty. -/
def start : Session := { secrets := [.empty] }

/-- What the tenant writes. -/
def password : Details := .ofList [("password", [7])]

end OneName

open OneName in
/-- A neighbour does not see what the tenant has written. -/
theorem neighbour_reads_nothing :
    ∃ s', ((SecretStore.memory 0).write ⟨[0]⟩ tenant password start).finish = some (.ok (), s')
      ∧ ((SecretStore.memory 0).read ⟨[0]⟩ neighbour s').finish = some (.ok none, s') := by
  obtain ⟨before, after, s', hbefore, hwrite, hafter, hchanged, -, hsame⟩ :=
    read_after_write (show 0 < start.secrets.length by decide)
      (show tenant.destination = some (.inStore "conn" "default") from rfl)
      (show neighbour.destination = some (.inStore "conn" "default") from rfl)
      ⟨[0]⟩ ⟨[0]⟩ password
  have hslash : ∀ {ns : String}, '/' ∉ ns.toList → ∀ other, some ns = some other →
      '/' ∉ other.toList := by
    intro ns hns other hother
    cases hother
    exact hns
  have hkeys := hsame
    ⟨by decide +kernel, hslash (by decide +kernel), fun h => by cases h⟩
    ⟨by decide +kernel, hslash (by decide +kernel), fun h => by cases h⟩
  have hnone : before = none := by
    cases hbefore
    rfl
  refine ⟨s', hwrite, ?_⟩
  by_cases hequal : after = before
  · rw [hafter, hequal, hnone]
  · have hns := (hkeys.1 (hchanged hequal)).ns
    exact absurd hns (by decide)

open OneName in
/-- **Secrets of the same name in two store configs that are one.**  It is not so that a write
for one owner changes what another one reads only if both publish to the same secret. -/
theorem shared_across_configs :
    ¬ ∀ (id : Nat) (s s' : Session) (o o' : Owner) (d d' : Destination) (ctx : Context)
        (details : Details), o.destination = some d → o'.destination = some d' →
      ((SecretStore.memory id).write ctx o details s).finish = some (.ok (), s') →
      ((SecretStore.memory id).read ctx o' s').finish.map Prod.fst
        ≠ ((SecretStore.memory id).read ctx o' s).finish.map Prod.fst →
      SameSecret o d o' d' := by
  intro hisolated
  have hwrite : ((SecretStore.memory 0).write ⟨[0]⟩ tenant password start).finish = some _ :=
    SecretStore.finish_memory_write rfl password
  have hsame := hisolated 0 start _ tenant stranger _ _ ⟨[0]⟩ password rfl rfl hwrite (by
    intro hread
    have hfound : (Except.ok (some password) : Except Failure (Option Details)) = .ok none :=
      Option.some.inj hread
    cases hfound)
  exact absurd hsame.ns (by decide)

end ConnectionRelay
