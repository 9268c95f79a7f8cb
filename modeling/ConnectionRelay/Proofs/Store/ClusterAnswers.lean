/-
  ConnectionRelay.Proofs.Store.ClusterAnswers
  ───────────────────────────────────────────
  **WHAT A QUIET CLUSTER ANSWERS.**

  When nothing else runs and the server only serves, a read and a write for an owner with
  valid names come to an end.  The secret at the owner's place goes with the details that
  it holds (`Keeping`), and only that place changes (`Session.Serves`).  Main statements:

    • `read_keeping` — a read answers the details that are kept,
    • `write_keeping` — a write succeeds and merges its details in.
-/
import ConnectionRelay.Proofs.Cluster.PlainSecret
import ConnectionRelay.Proofs.Store.QuietCluster

namespace ConnectionRelay

open Cluster

/-! ## §1. What a server keeps. -/

/-- A plain secret, if there is one, holds the details, and the object is how it is written. -/
structure Keeping (existing : Option Secret) (mem : Option Details) (object : Option Json) :
    Prop where
  plain : ∀ secret, existing = some secret → secret.Plain
  details : mem = existing.map Secret.details
  object : object = existing.map Secret.toJson

theorem keeping_none : Keeping none none none := by
  refine ⟨fun secret hsecret => ?_, rfl, rfl⟩
  cases hsecret

theorem keeping_some {secret : Secret} (h : secret.Plain) :
    Keeping (some secret) (some secret.details) (some secret.toJson) := by
  refine ⟨fun other hother => ?_, rfl, rfl⟩
  cases hother
  exact h

/-- A plain secret is found as it was written. -/
theorem Keeping.shows {existing : Option Secret} {mem : Option Details} {object : Option Json}
    (h : Keeping existing mem object) : Shows object existing := by
  rw [h.object]
  cases existing with
  | none => exact .absent
  | some secret =>
      have hplain := h.plain secret rfl
      have hkeyed := isKeyed_toJson secret
      rw [hplain.toJson_sent] at hkeyed
      refine .present hkeyed ?_
      rw [hplain.toJson_sent, hplain.decode_toJson]

namespace ClusterStore

variable {ctx : Context} {s : Session} {store : ClusterStore} {owner : Owner} {d : Destination}
  {existing : Option Secret} {mem : Option Details}

/-! ## §2. Reads. -/

/-- **A read answers the details that are kept.** -/
theorem read_keeping (hdestination : owner.destination = some d)
    (hns : isName (store.namespaceOf owner) = true) (hname : isName d.name = true)
    (hactive : ctx.isCancelled s = false) (hscript : (s.serverOf store.cluster).script = [])
    (hkeeping : Keeping existing mem
      ((s.serverOf store.cluster).objects.get? (Secret.place (store.namespaceOf owner) d.name))) :
    ∃ s', s'.serverOf store.cluster = (s.serverOf store.cluster).take ∧ s'.fired = s.fired
      ∧ (store.toStore.read ctx owner s).finish = some (.ok mem, s') := by
  rw [hkeeping.details]
  exact read_shown hdestination hns hname hactive hscript hkeeping.shows

/-! ## §3. Writes. -/

/-- A write leaves a plain secret plain, with its details merged in. -/
theorem Leaves.keeping {ns : String} {details : Details} {before after : Option Json}
    (h : Leaves ns d details before existing after) (hkeeping : Keeping existing mem before) :
    ∃ written, Keeping written (some ((mem.getD .empty).merge details)) after := by
  rw [hkeeping.details]
  cases h with
  | same found hsame =>
      have hfound := keeping_some (hkeeping.plain found rfl)
      rw [hkeeping.object]
      show ∃ written, Keeping written (some (found.details.merge details)) (some found.toJson)
      rw [Secret.details_of_same hsame]
      exact ⟨_, hfound⟩
  | stored existing version =>
      have hplain : (existing.getD (Secret.ofName d.name ns)).Plain := by
        cases existing with
        | none => exact Secret.plain_ofName d.name ns
        | some found => exact hkeeping.plain found rfl
      have hdetails : (existing.map Secret.details).getD .empty
          = (existing.getD (Secret.ofName d.name ns)).details := by
        cases existing <;> rfl
      have hsent := (hplain.apply d details).withVersion version
      refine ⟨some ((toSend ns d details existing).withVersion version), ?_⟩
      rw [hdetails, toSend, hsent.toJson_sent]
      exact keeping_some hsent

/-- **A write succeeds and merges its details in.** -/
theorem write_keeping (hdestination : owner.destination = some d)
    (hns : isName (store.namespaceOf owner) = true) (hname : isName d.name = true)
    (hactive : ctx.isCancelled s = false) (hscript : (s.serverOf store.cluster).script = [])
    (details : Details)
    (hkeeping : Keeping existing mem
      ((s.serverOf store.cluster).objects.get? (Secret.place (store.namespaceOf owner) d.name))) :
    ∃ s', (store.toStore.write ctx owner details s).finish = some (.ok (), s')
      ∧ s.Serves s' store.cluster (Secret.place (store.namespaceOf owner) d.name)
      ∧ ∃ written, Keeping written (some ((mem.getD .empty).merge details))
          ((s'.serverOf store.cluster).objects.get?
            (Secret.place (store.namespaceOf owner) d.name)) := by
  obtain ⟨s', hfinish, hserves, hleaves, -⟩ :=
    write_shown hdestination hns hname hactive hscript details hkeeping.shows
  exact ⟨s', hfinish, hserves, hleaves.keeping hkeeping⟩

end ClusterStore

end ConnectionRelay
