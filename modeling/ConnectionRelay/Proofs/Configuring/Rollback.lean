/-
  ConnectionRelay.Proofs.Configuring.Rollback
  ───────────────────────────────────────────
  **FAILED CALLS LEAVE NO TRACE ON THE COMPOSITE.**

  A call whose composite is stored in a cluster can fail before the request is sent, while
  it waits, by the answer, or at the conversion of the answer.  Each time the composite is
  afterwards what it was before, so an attempt that succeeds at last sends what the first
  attempt would have sent.  Main statements:

    • `Calls.unchanged_by_failures` — any number of failed calls leave the composite as it was,
    • `failures_leave_no_trace` — the first attempt that succeeds does what it would have
      done as the first attempt of all.
-/
import ConnectionRelay.Proofs.Configuring.ClusterUpdate

namespace ConnectionRelay

open Cluster

/-! ## §1. Failed calls. -/

/-- Any number of failed calls leave the composite as it was. -/
theorem Calls.unchanged_by_failures {cluster : String} {composite composite' : Resource}
    {calls : List Call} (h : Calls (.ofCluster cluster) composite calls composite')
    (hfailed : ∀ call ∈ calls, call.result ≠ .ok ()) : composite' = composite := by
  induction h with
  | nil composite => rfl
  | cons hbefore hmade _ ih =>
      obtain ⟨hfirst, hrest⟩ := List.forall_mem_cons.1 hfailed
      rw [ih hrest, ← hbefore]
      exact (Configurator.unchanged_of_error hmade.ends hmade.alone hfirst).1

/-- The last of several calls starts where the calls before it have ended. -/
theorem Calls.exists_of_append {updater : Updater} {composite composite' : Resource}
    {earlier later : List Call} (h : Calls updater composite (earlier ++ later) composite') :
    ∃ middle, Calls updater composite earlier middle ∧ Calls updater middle later composite' := by
  induction earlier generalizing composite with
  | nil => exact ⟨composite, .nil composite, h⟩
  | cons call rest ih =>
      cases h with
      | cons hbefore hmade hrest =>
          obtain ⟨middle, hearlier, hlater⟩ := ih hrest
          exact ⟨middle, .cons hbefore hmade hearlier, hlater⟩

/-! ## §2. The first attempt that succeeds. -/

/-- **Failed calls leave no trace.**  A call that returns an error of any kind leaves the
composite as it was, and counts nothing in any of its turns.  If any number of calls have
failed and one succeeds, it either had nothing to do, like every attempt before it with the
same composition, or it has sent one request and taken the answer over; then any first
attempt with the same composition that meets the same answer sends the same request and
ends with the same composite. -/
theorem failures_leave_no_trace (cluster : String) :
    (∀ ctx composition before changes result after,
        (Configurator.configure (.ofCluster cluster) ctx composition before).Ends changes result
          after →
        CompositeTask.LeftAlone changes → result ≠ .ok () →
        after.2 = before.2
          ∧ ∀ turn ∈ Progress.turns before changes after, turn.2.1.counters = turn.1.1.counters)
      ∧ ∀ composite failed last composite',
        Calls (.ofCluster cluster) composite (failed ++ [last]) composite' →
        (∀ call ∈ failed, call.result ≠ .ok ()) → last.result = .ok () →
        (composite' = composite ∧ requestsIn cluster last.turns = [] ∧ ∀ ctx s,
            Configurator.configure (.ofCluster cluster) ctx last.composition (s, composite)
              = .done (.ok ()) (s, composite))
          ∨ ∃ request response left found, last.changes = [(left, found)]
            ∧ ((found.1.serverOf cluster).handle request).1 = .answered response
            ∧ requestsIn cluster last.turns = [request]
            ∧ ∀ ctx s met, ctx.isCancelled s = false → ctx.isCancelled met = false →
              ((met.serverOf cluster).handle request).1 = .answered response →
              ∃ left s', (Configurator.configure (.ofCluster cluster) ctx last.composition
                    (s, composite)).Ends [(left, (met, left.2))] (.ok ()) (s', composite')
                ∧ requestsIn cluster
                    (Progress.turns (s, composite) [(left, (met, left.2))] (s', composite'))
                  = [request] := by
  refine ⟨fun ctx composition before changes result after hends halone herror =>
    Configurator.unchanged_of_error hends halone herror, ?_⟩
  intro composite failed last composite' hcalls hfailed hok
  obtain ⟨middle, hearlier, hlater⟩ := hcalls.exists_of_append
  obtain rfl : middle = composite := hearlier.unchanged_by_failures hfailed
  cases hlater with
  | cons hbefore hmade hrest =>
    cases hrest
    obtain rfl := hbefore
    have hends := hmade.ends
    rw [hok] at hends
    rcases Configurator.course last.ctx last.composition last.before with
      ⟨result, hcall, hresult⟩ | ⟨store, hstore, htype, hnone, -, -⟩
    · rw [hcall, Progress.ends_done_iff] at hends
      obtain ⟨hchanges, hdone, hafter⟩ := hends
      obtain ⟨htype, hsettled⟩ := hresult hdone.symm
      refine .inl ⟨congrArg Prod.snd hafter, ?_, fun ctx s =>
        Configurator.configure_of_settled htype hsettled s _⟩
      simp [Call.turns, hchanges, hafter, Progress.turns, requestsIn]
    · obtain ⟨request, response, stored, ⟨unsent, hsent, rfl⟩, hrequests, hanswered, hobject,
        hrefreshed⟩ := Configurator.exists_refreshed hends hmade.alone hstore hnone
      obtain ⟨left, found, hchanges, hanswered⟩ := hanswered
      refine .inr ⟨unsent.arrived, response, left, found, hchanges, hanswered, hrequests, ?_⟩
      intro ctx s met hactive hmet hsame
      obtain ⟨left', s', -, hfirst, -⟩ := Configurator.ends_of_answered hstore htype hnone
        hactive hmet hsent hsame hobject hrefreshed
      refine ⟨left', s', hfirst, ?_⟩
      -- the request depends on the composite and the store alone
      obtain ⟨request', -, -, ⟨unsent', hsent', rfl⟩, hrequests', -⟩ :=
        Configurator.exists_refreshed hfirst (List.forall_mem_singleton.2 rfl) hstore hnone
      obtain rfl : unsent' = unsent := Option.some.inj (hsent'.symm.trans hsent)
      exact hrequests'

/-! ## §3. A conflict, and an attempt that succeeds. -/

namespace Sample

/-- A session with a server that refuses one request with a conflict, and answers the next;
it has taken some requests already. -/
def contested (taken : Nat) : Session :=
  { servers := .ofList [("east",
      { script := [some { answer := some (ApiServer.refusal 409 "Conflict") },
                   some { answer := some (accepting kept) }],
        taken })] }

end Sample

open Sample in
/-- After a conflict the second attempt sends what the first would have sent, had it met the
same answer. -/
theorem second_attempt_as_the_first :
    ∃ failed last, Calls (.ofCluster "east") composite [failed, last] (stored kept)
      ∧ failed.result = .error (.updateComposite (Updater.failure composite))
      ∧ last.result = .ok ()
      ∧ ∃ request, requestsIn "east" last.turns = [request]
        ∧ ∀ ctx s met, ctx.isCancelled s = false → ctx.isCancelled met = false →
          ((met.serverOf "east").handle request).1 = .answered (accepting kept) →
          ∃ left s', (Configurator.configure (.ofCluster "east") ctx last.composition
                (s, composite)).Ends [(left, (met, left.2))] (.ok ()) (s', stored kept)
            ∧ requestsIn "east"
                (Progress.turns (s, composite) [(left, (met, left.2))] (s', stored kept))
              = [request] := by
  obtain ⟨s₁, hfinish⟩ : ∃ s₁, (Configurator.configure (.ofCluster "east") ⟨[0]⟩ composition
      (contested 0, composite)).finish
        = some (.error (.updateComposite (Updater.failure composite)), (s₁, composite)) := ⟨_, rfl⟩
  obtain ⟨changes₁, update₁, hmade₁⟩ := Configurator.exists_made_of_finish _ _ _ _ hfinish
  have hactive : (⟨[0]⟩ : Context).isCancelled (contested 1) = false := rfl
  obtain ⟨left, s₂, hends⟩ := ends_kept hactive hactive fun request => rfl
  obtain ⟨update₂, hmade₂⟩ := Configurator.exists_made hends (List.forall_mem_singleton.2 rfl)
  have hcalls := Calls.cons rfl hmade₁ (.cons rfl hmade₂ (.nil _))
  refine ⟨_, _, hcalls, rfl, rfl, ?_⟩
  rcases (failures_leave_no_trace "east").2 _ [_] _ _ hcalls (List.forall_mem_singleton.2 nofun) rfl
    with ⟨hsame, -⟩ | ⟨request, response, left', found, hchanges, hmet, hrequests, hfirst⟩
  · have hset : (stored kept).destination ≠ composite.destination := by decide
    exact absurd (congrArg Resource.destination hsame) hset
  · cases hchanges
    have hsame : (((contested 1).serverOf "east").handle request).1
        = .answered (accepting kept) := rfl
    obtain rfl := Fate.answered.inj (hmet.symm.trans hsame)
    exact ⟨request, hrequests, hfirst⟩

end ConnectionRelay
