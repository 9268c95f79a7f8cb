/-
  ConnectionRelay.Proofs.Configuring.Once
  ───────────────────────────────────────
  **THE DESTINATION IS GIVEN ONCE.**

  Over any calls on one composite, in which compositions, contexts and the luck of the
  updater change from call to call, the composite is given at most one destination.  A call
  either finds a destination and does nothing, or leaves the composite without one, or sets
  it; and which of the three it is can be told from what it returns.  Main statements:

    • `Made.step` — what one call does,
    • `initialised_once` — what all calls do together.
-/
import ConnectionRelay.Proofs.Configuring.Call

namespace ConnectionRelay

/-! ## §1. One call. -/

/-- The fields of a composite that configuring depends on are the same. -/
structure Resource.Resembles (r' r : Resource) : Prop where
  destination : r'.destination = r.destination
  uid : r'.uid = r.uid
  type : r'.type = r.type

/-- However it ends, driven under any context, the updater leaves these fields as it finds
them.  It may change anything else. -/
def Updater.KeepsIdentity (updater : Updater) : Prop :=
  ∀ (ctx : Context) (st st' : Session × Resource) changes outcome,
    (ctx.run (updater ctx) st).Ends changes outcome st' → CompositeTask.LeftAlone changes →
      st'.2.Resembles st.2

namespace Call

variable {updater : Updater} {call : Call}

/-- What one call does. -/
inductive Step (call : Call) : Prop where
  /-- The composite has a destination, and nothing is done. -/
  | kept (hsome : call.before.2.destination ≠ none) (hidle : call.Idle)
  /-- The composite is left without a destination. -/
  | unset (hnone : call.before.2.destination = none) (hfails : ¬call.Succeeds)
      (hstored : call.stored = false) (hafter : call.after.2.destination = none)
  /-- The composite was stored with a destination. -/
  | set (store : String) (hnone : call.before.2.destination = none) (hsucceeds : call.Succeeds)
      (hstored : call.stored = true) (hstore : call.composition.defaultStore = some store)
      (hafter : call.after.2.destination = some (.inStore call.before.2.uid store))

/-- An idle call has stored nothing. -/
theorem Idle.stored_eq (h : call.Idle) : call.stored = false := by
  rw [stored, h.update]
  rfl

/-- **What one call does**, with an updater that keeps the identity of composites. -/
theorem Made.step (hkeeps : updater.KeepsIdentity) (h : call.Made updater) :
    call.Step ∧ call.after.2.uid = call.before.2.uid := by
  rcases h.went with ⟨hidle, hsucceeds⟩
    | ⟨w, store, hupdate, hstore, htype, hnone, hstart, hrun, hresult, hafter⟩
  · refine ⟨?_, by rw [hidle.after]⟩
    cases hdestination : call.before.2.destination with
    | some d => exact .kept (hdestination ▸ Option.some_ne_none d) hidle
    | none =>
        refine .unset hdestination (fun hs => hsucceeds hs hdestination) hidle.stored_eq ?_
        rw [hidle.after, hdestination]
  · obtain ⟨hdestination, huid, -⟩ := hkeeps _ _ _ _ _ hrun h.alone
    have hstored : call.stored = w.succeeded := by simp [stored, hupdate]
    have hid : w.start.2.uid = call.before.2.uid := by rw [hstart]; rfl
    by_cases hok : w.succeeded = true
    · -- the updater keeps the destination that it was called with
      have houtcome := UpdaterRun.succeeded_iff.1 hok
      rw [houtcome] at hresult hafter
      have hcomposite : call.after.2 = w.finish.2 := by rw [hafter]; rfl
      have hsucceeds : call.Succeeds := ⟨hresult, htype, hstore ▸ Option.some_ne_none store⟩
      refine ⟨.set store hnone hsucceeds (hstored.trans hok) hstore ?_,
        by rw [hcomposite, huid, hid]⟩
      rw [hcomposite, hdestination, hstart]
      rfl
    · have houtcome : w.outcome ≠ .ok (.ok ()) := mt UpdaterRun.succeeded_iff.2 hok
      have hcomposite : call.after.2 = w.finish.2.withDestination none := by
        rw [hafter, Configurator.concluded_of_ne houtcome]
      have hfails : ¬call.Succeeds := fun hs =>
        houtcome (Configurator.verdict_eq_ok.1 (hresult.symm.trans hs.result))
      refine ⟨.unset hnone hfails (hstored.trans (Bool.not_eq_true _ ▸ hok)) ?_, ?_⟩
      · rw [hcomposite]
        rfl
      · rw [hcomposite, ← hid, ← huid]
        rfl

end Call

/-! ## §2. All calls. -/

/-- What becomes of a composite that has no destination at first. -/
inductive InitialisedOnce (composite : Resource) (calls : List Call) : Prop where
  /-- No call succeeds, and it never has one. -/
  | never (h : ∀ call ∈ calls, ¬call.Succeeds ∧ call.after.2.destination = none)
  /-- The first call that succeeds sets it for good, and nothing is done after that. -/
  | once (earlier later : List Call) (call : Call) (store : String)
      (hcalls : calls = earlier ++ call :: later)
      (hearlier : ∀ c ∈ earlier, ¬c.Succeeds ∧ c.after.2.destination = none)
      (hsucceeds : call.Succeeds) (hstore : call.composition.defaultStore = some store)
      (hset : ∀ c ∈ call :: later, c.after.2.destination = some (.inStore composite.uid store))
      (hidle : ∀ c ∈ later, c.Idle)

namespace Calls

variable {updater : Updater} {composite composite' : Resource} {calls : List Call}

/-- The calls on a composite that has a destination do nothing. -/
theorem kept (h : Calls updater composite calls composite') (hsome : composite.destination ≠ none) :
    composite' = composite
      ∧ ∀ call ∈ calls, call.Idle ∧ call.after.2.destination = composite.destination := by
  induction h with
  | nil composite =>
      refine ⟨rfl, fun call hmem => ?_⟩
      cases hmem
  | cons hbefore hmade hrest ih =>
      rcases hmade.went with ⟨hidle, -⟩ | ⟨-, -, -, -, -, hnone, -⟩
      · rw [hidle.after, hbefore] at ih
        obtain ⟨hsame, hkept⟩ := ih hsome
        refine ⟨hsame, fun call hmem => ?_⟩
        rcases List.mem_cons.1 hmem with rfl | hmem
        · exact ⟨hidle, by rw [hidle.after, hbefore]⟩
        · exact hkept call hmem
      · rw [hbefore] at hnone
        exact absurd hnone hsome

/-- A composite without a destination is initialised once. -/
theorem initialisedOnce (hkeeps : updater.KeepsIdentity)
    (h : Calls updater composite calls composite') (hnone : composite.destination = none) :
    InitialisedOnce composite calls := by
  -- on the calls; after the first one that succeeds the rest is idle
  induction h with
  | nil composite =>
      refine .never fun call hmem => ?_
      cases hmem
  | @cons composite composite' first calls hbefore hmade hrest ih =>
      obtain ⟨hstep, huid⟩ := hmade.step hkeeps
      rw [hbefore] at huid
      rcases hstep with ⟨hsome, -⟩ | ⟨-, hfails, -, hafter⟩
        | ⟨store, -, hsucceeds, -, hstore, hafter⟩
      · rw [hbefore] at hsome
        exact absurd hnone hsome
      · rcases ih hafter with hnever | ⟨earlier, later, call, store, rfl, hearlier, hsucceeds,
          hstore, hset, hidle⟩
        · exact .never (List.forall_mem_cons.2 ⟨⟨hfails, hafter⟩, hnever⟩)
        · rw [huid] at hset
          exact .once (first :: earlier) later call store rfl
            (List.forall_mem_cons.2 ⟨⟨hfails, hafter⟩, hearlier⟩) hsucceeds hstore hset hidle
      · rw [hbefore] at hafter
        have hrest' := (hrest.kept (hafter ▸ Option.some_ne_none _)).2
        refine .once [] calls first store rfl (fun c hmem => by cases hmem) hsucceeds hstore
          (List.forall_mem_cons.2 ⟨hafter, fun c hmem => ?_⟩) fun c hmem => (hrest' c hmem).1
        rw [(hrest' c hmem).2, hafter]

/-- Afterwards the composite has a destination if it had one before or an update has
succeeded. -/
theorem isSome_eq (hkeeps : updater.KeepsIdentity) (h : Calls updater composite calls composite') :
    composite'.destination.isSome = (composite.destination.isSome || calls.any Call.stored) := by
  induction h with
  | nil composite => simp
  | @cons composite composite' first calls hbefore hmade hrest ih =>
      rw [ih, List.any_cons]
      rcases (hmade.step hkeeps).1 with ⟨hsome, hidle⟩ | ⟨hnone, -, hstored, hafter⟩
        | ⟨store, hnone, -, hstored, -, hafter⟩
      · rw [hidle.after, hbefore, hidle.stored_eq, Bool.false_or]
      · rw [hafter, hstored, ← hbefore, hnone, Bool.false_or]
      · rw [hafter, hstored]
        simp

/-- In all turns of the calls the counter rises by one if an update has succeeded, besides
what the updater adds. -/
theorem counted_eq (hkeeps : updater.KeepsIdentity)
    (h : Calls updater composite calls composite') :
    Call.counted (calls.flatMap Call.turns)
      = Call.counted (calls.flatMap Call.updateTurns)
        + if calls.any Call.stored then 1 else 0 := by
  induction h with
  | nil composite => rfl
  | @cons composite composite' first calls hbefore hmade hrest ih =>
      rw [List.flatMap_cons, List.flatMap_cons, Call.counted_append, Call.counted_append, ih,
        hmade.counted_eq, List.any_cons]
      -- a composite that is stored is not stored again
      have honce : first.stored = true → calls.any Call.stored = false := by
        intro hstored
        rcases (hmade.step hkeeps).1 with ⟨-, hidle⟩ | ⟨-, -, hnot, -⟩ | ⟨store, -, -, -, -, hafter⟩
        · rw [hidle.stored_eq] at hstored
          cases hstored
        · rw [hnot] at hstored
          cases hstored
        · rw [List.any_eq_false]
          intro call hmem
          have hidle := ((hrest.kept (hafter ▸ Option.some_ne_none _)).2 call hmem).1
          rw [hidle.stored_eq]
          exact Bool.false_ne_true
      cases hstored : first.stored with
      | false =>
          simp only [Bool.false_or, Bool.false_eq_true, if_false]
          grind
      | true =>
          simp only [honce hstored, Bool.true_or, Bool.false_eq_true, if_true, if_false]
          grind

end Calls

/-- **The destination is given once.**  Every call that ends continues the calls before it.
If the composite has a destination at first, no call does anything; otherwise it is
initialised once.  At the end there is a destination if there was one at first or an update
has succeeded, and the counter has risen by one if an update has succeeded. -/
theorem initialised_once {updater : Updater} (hkeeps : updater.KeepsIdentity)
    {composite composite' : Resource} {calls : List Call}
    (h : Calls updater composite calls composite') :
    (∀ ctx composition s changes result after,
        (Configurator.configure updater ctx composition (s, composite')).Ends changes result after →
        CompositeTask.LeftAlone changes →
        ∃ update, Calls updater composite
          (calls ++ [⟨ctx, composition, (s, composite'), changes, update, result, after⟩]) after.2)
      ∧ (composite.destination ≠ none → composite' = composite
          ∧ ∀ call ∈ calls, call.Idle ∧ call.after.2.destination = composite.destination)
      ∧ (composite.destination = none → InitialisedOnce composite calls)
      ∧ composite'.destination.isSome = (composite.destination.isSome || calls.any Call.stored)
      ∧ Call.counted (calls.flatMap Call.turns)
          = Call.counted (calls.flatMap Call.updateTurns)
            + if calls.any Call.stored then 1 else 0 := by
  refine ⟨?_, h.kept, h.initialisedOnce hkeeps, h.isSome_eq hkeeps, h.counted_eq hkeeps⟩
  intro ctx composition s changes result after hends halone
  obtain ⟨update, hmade⟩ := Configurator.exists_made hends halone
  exact ⟨update, h.snoc rfl hmade⟩

/-! ## §3. A composite that is configured four times. -/

namespace Sample

/-- The composite with another resource version. -/
def renewed (r : Resource) : Resource :=
  { r with metadata := { r.metadata with resourceVersion := some "2" } }

/-- An updater that is suspended once, renews the composite, and fails as long as the queues
have not begun to wait. -/
def hesitant : Updater := fun _ st =>
  .paused st fun st =>
    .done (if st.1.queuesWait then .ok () else .error (.plain "busy")) (st.1, renewed st.2)

theorem keepsIdentity_hesitant : hesitant.KeepsIdentity := by
  intro ctx st st' changes outcome hends halone
  unfold Context.run at hends
  split at hends
  · obtain ⟨-, -, rfl⟩ := Progress.ends_done_iff.1 hends
    exact ⟨rfl, rfl, rfl⟩
  · cases hends with
    | @paused _ found _ _ rest _ hends =>
        have hfound : found.2 = st.2 := halone _ List.mem_cons_self
        -- it was cancelled while it was suspended, or it has gone on to its end
        rcases Bool.eq_false_or_eq_true (ctx.isCancelled found) with hcancelled | hactive
        · simp only [hcancelled, if_true] at hends
          obtain ⟨-, -, rfl⟩ := Progress.ends_done_iff.1 hends
          rw [hfound]
          exact ⟨rfl, rfl, rfl⟩
        · simp only [hactive, Bool.false_eq_true, if_false] at hends
          obtain ⟨-, -, rfl⟩ := Progress.ends_done_iff.1 hends
          rw [← hfound]
          exact ⟨rfl, rfl, rfl⟩

/-- A composition for another type of composite. -/
def foreign : CompositionSpec :=
  { compositeType := ⟨"example.org/v1", "Cache"⟩, defaultStore := some "east" }

/-- A composition with another default store. -/
def vaulted : CompositionSpec := { composition with defaultStore := some "vault" }

/-- A session in which the queues wait. -/
def waiting : Session := { queuesWait := true }

end Sample

open Sample in
/-- The third of four calls gives the destination: the first has the wrong composition, the
second a failing updater, and the fourth finds the destination that the third has given. -/
theorem initialised_by_the_third :
    ∃ calls composite', Calls hesitant composite calls composite'
      ∧ (calls.map fun call => call.result.isOk) = [false, false, true, true]
      ∧ composite'.destination = some (.inStore "u-1" "vault")
      ∧ InitialisedOnce composite calls
      ∧ Call.counted (calls.flatMap Call.turns)
          = Call.counted (calls.flatMap Call.updateTurns) + 1 := by
  obtain ⟨changes₁, update₁, hmade₁⟩ :=
    Configurator.exists_made_of_finish hesitant ⟨[0]⟩ foreign ({}, composite) rfl
  obtain ⟨changes₂, update₂, hmade₂⟩ :=
    Configurator.exists_made_of_finish hesitant ⟨[0]⟩ composition ({}, composite) rfl
  obtain ⟨changes₃, update₃, hmade₃⟩ :=
    Configurator.exists_made_of_finish hesitant ⟨[0]⟩ vaulted (waiting, renewed composite) rfl
  obtain ⟨changes₄, update₄, hmade₄⟩ :=
    Configurator.exists_made_of_finish hesitant ⟨[0]⟩ composition
      ({}, renewed (Configurator.given (renewed composite) "vault")) rfl
  have hcalls := Calls.cons rfl hmade₁
    (.cons rfl hmade₂ (.cons rfl hmade₃ (.cons rfl hmade₄ (.nil _))))
  obtain ⟨-, -, honce, hsome, hcounted⟩ := initialised_once keepsIdentity_hesitant hcalls
  refine ⟨_, _, hcalls, rfl, rfl, honce rfl, ?_⟩
  have hstored : List.any _ Call.stored = true := hsome.symm
  rw [hcounted, hstored]
  rfl

end ConnectionRelay
