/-
  ConnectionRelay.Proofs.Configuring.Call
  ───────────────────────────────────────
  **ONE CALL OF CONFIGURE, AND MANY.**

  A call settles at once and leaves everything as it is, or it gives the composite a
  destination and has the updater store it.  A `Call` is the record of one call that has
  ended: in which states it began and ended, what others did while it was suspended, and
  how its updater fared.  The composite belongs to the call as long as it lasts, so others
  may change anything but the composite.  Main statements:

    • `course` — the two courses a call can take,
    • `exists_made` — every call that ends has a record,
    • `Call.Made.went` — and what the records can look like.
-/
import ConnectionRelay.Proofs.Pipeline.EndToEnd
import ConnectionRelay.Proofs.Task.Ending

namespace ConnectionRelay

/-- Others have left the composite alone. -/
def CompositeTask.LeftAlone (changes : List ((Session × Resource) × (Session × Resource))) : Prop :=
  ∀ change ∈ changes, change.2.2 = change.1.2

namespace Configurator

/-! ## §1. The end of a call. -/

/-- What a call makes of what the updater, driven under the context, came to. -/
def verdict : Except ConnectionError (Except Failure Unit) → Except ConnectionError Unit
  | .error e => .error e
  | .ok (.error f) => .error (.ofFailure .updateComposite f)
  | .ok (.ok ()) => .ok ()

/-- The state after the updater has ended: a composite that was stored is counted, and any
other loses its destination again. -/
def concluded (outcome : Except ConnectionError (Except Failure Unit)) (st : Session × Resource) :
    Session × Resource :=
  match verdict outcome with
  | .error _ => (st.1, st.2.withDestination none)
  | .ok () => (st.1.count .configured 1, st.2)

/-- The state in which the updater is called. -/
def assigned (store : String) (st : Session × Resource) : Session × Resource :=
  (announced st.2 store st.1, given st.2 store)

theorem persist_eq (updater : Updater) (ctx : Context) (st : Session × Resource) :
    persist updater ctx st = (ctx.run (updater ctx) st).bind fun outcome st =>
      .done (verdict outcome) (concluded outcome st) := by
  unfold persist
  rw [Task.bind_apply]
  congr 1
  funext outcome st
  rcases outcome with e | f | _ <;> rfl

/-- A call ends as its updater does. -/
theorem ends_persist_iff {updater : Updater} {ctx : Context} {st after : Session × Resource}
    {changes : List ((Session × Resource) × (Session × Resource))}
    {result : Except ConnectionError Unit} :
    (persist updater ctx st).Ends changes result after ↔
      ∃ outcome finish, (ctx.run (updater ctx) st).Ends changes outcome finish
        ∧ result = verdict outcome ∧ after = concluded outcome finish := by
  rw [persist_eq, Progress.ends_bind_done_iff]

theorem verdict_eq_ok {outcome : Except ConnectionError (Except Failure Unit)} :
    verdict outcome = .ok () ↔ outcome = .ok (.ok ()) := by
  rcases outcome with e | f | _ <;> simp [verdict]

theorem concluded_of_ne {outcome : Except ConnectionError (Except Failure Unit)}
    (h : outcome ≠ .ok (.ok ())) (st : Session × Resource) :
    concluded outcome st = (st.1, st.2.withDestination none) := by
  rcases outcome with e | f | _
  · rfl
  · rfl
  · exact absurd rfl h

/-! ## §2. The two courses of a call. -/

variable {ctx : Context} {composition : CompositionSpec} {st : Session × Resource}

/-- A composite that needs no destination from the composition is left untouched. -/
theorem configure_of_settled {composite : Resource}
    (htype : composition.appliesTo composite.type = true)
    (h : composition.defaultStore = none ∨ composite.destination ≠ none) (s : Session)
    (updater : Updater) :
    configure updater ctx composition (s, composite) = .done (.ok ()) (s, composite) := by
  unfold configure
  simp only [Task.bind_apply, CompositeTask.composite, Progress.bind, htype, Bool.not_true,
    Bool.false_eq_true, if_false]
  cases hstore : composition.defaultStore with
  | none => rfl
  | some store =>
      cases hdestination : composite.destination with
      | none =>
          rw [hstore, hdestination] at h
          rcases h with h | h
          · cases h
          · exact absurd rfl h
      | some d => rfl

/-- A composite that needs a destination is given one, and stored. -/
theorem configure_of_unset {store : String} {composite : Resource} {s : Session}
    (hstore : composition.defaultStore = some store)
    (htype : composition.appliesTo composite.type = true) (hnone : composite.destination = none)
    (hactive : ctx.isCancelled s = false) (updater : Updater) :
    configure updater ctx composition (s, composite)
      = persist updater ctx (assigned store (s, composite)) := by
  have hensure : ctx.ensureActive (s, composite) = .done (.ok ()) (s, composite) :=
    Context.ensureActive_of_active hactive
  unfold configure
  simp only [Task.bind_apply, CompositeTask.composite, Progress.bind, htype, Bool.not_true,
    Bool.false_eq_true, if_false, hstore, hnone, hensure]
  rfl

/-- The course of a call from a state, whatever the updater. -/
inductive Course (ctx : Context) (composition : CompositionSpec) (st : Session × Resource) :
    Prop where
  /-- It settles at once. -/
  | settles (result : Except ConnectionError Unit)
      (hcall : ∀ updater, configure updater ctx composition st = .done result st)
      (hresult : result = .ok () → composition.appliesTo st.2.type = true ∧
        (composition.defaultStore = none ∨ st.2.destination ≠ none))
  /-- It gives the composite a destination, and asks the updater to store it. -/
  | asks (store : String) (hstore : composition.defaultStore = some store)
      (htype : composition.appliesTo st.2.type = true) (hnone : st.2.destination = none)
      (hactive : ctx.isCancelled st = false)
      (hcall : ∀ updater,
        configure updater ctx composition st = persist updater ctx (assigned store st))

/-- **The two courses of a call.** -/
theorem course (ctx : Context) (composition : CompositionSpec) (st : Session × Resource) :
    Course ctx composition st := by
  -- along the exits of `configure`: mismatch, no store, a destination, a cancelled context
  cases htype : composition.appliesTo st.2.type with
  | false =>
      refine .settles (.error (.compositionMismatch composition.compositeType st.2.type))
        (fun updater => ?_) fun hok => by cases hok
      unfold configure
      simp [CompositeTask.composite, Progress.bind, htype]
  | true =>
      cases hstore : composition.defaultStore with
      | none =>
          exact .settles (.ok ()) (configure_of_settled htype (.inl hstore) st.1) fun _ =>
            ⟨htype, .inl hstore⟩
      | some store =>
          cases hdestination : st.2.destination with
          | some d =>
              have hsome : st.2.destination ≠ none := hdestination ▸ Option.some_ne_none d
              exact .settles (.ok ()) (configure_of_settled htype (.inr hsome) st.1) fun _ =>
                ⟨htype, .inr hsome⟩
          | none =>
              cases hactive : ctx.isCancelled st with
              | false =>
                  exact .asks store hstore htype hdestination hactive
                    (configure_of_unset hstore htype hdestination hactive)
              | true =>
                  refine .settles (.error .cancelled) (fun updater => ?_) fun hok => by cases hok
                  unfold configure
                  simp [CompositeTask.composite, Progress.bind, htype, hstore, hdestination,
                    Context.ensureActive, hactive]

/-- If a composite without a destination is configured by a composition with a default store,
the updater has stored it with its destination. -/
theorem stored_of_ok {updater : Updater} {store : String} {after : Session × Resource}
    {changes : List ((Session × Resource) × (Session × Resource))}
    (hends : (configure updater ctx composition st).Ends changes (.ok ()) after)
    (hstore : composition.defaultStore = some store) (hnone : st.2.destination = none) :
    ∃ finish, (ctx.run (updater ctx) (assigned store st)).Ends changes (.ok (.ok ())) finish
      ∧ after = (finish.1.count .configured 1, finish.2) := by
  rcases course ctx composition st with
    ⟨result, hcall, hresult⟩ | ⟨store', hstore', -, -, -, hcall⟩
  · rw [hcall, Progress.ends_done_iff] at hends
    rcases (hresult hends.2.1.symm).2 with hunset | hsome
    · rw [hunset] at hstore
      cases hstore
    · exact absurd hnone hsome
  · obtain rfl : store' = store := Option.some.inj (hstore'.symm.trans hstore)
    rw [hcall, ends_persist_iff] at hends
    obtain ⟨outcome, finish, hrun, hresult, hafter⟩ := hends
    obtain rfl : outcome = .ok (.ok ()) := verdict_eq_ok.1 hresult.symm
    exact ⟨finish, hrun, hafter⟩

/-- An updater that hangs under an active context keeps the call from ending. -/
theorem persist_hang {store : String} (hactive : ctx.isCancelled st = false)
    {result : Except ConnectionError Unit} {st' : Session × Resource} :
    persist (fun _ => Task.hang) ctx (assigned store st) ≠ .done result st' := by
  have hassigned : ctx.isCancelled (assigned store st) = false := hactive
  rw [persist_eq, Context.run_of_active hassigned]
  intro hdone
  cases hdone

/-- A composite is left untouched, whatever the updater, context and session, exactly when
it has the composition's type and needs no destination from it. -/
theorem settled_iff {composite : Resource} :
    (composition.appliesTo composite.type = true
        ∧ (composition.defaultStore = none ∨ composite.destination ≠ none))
      ↔ ∀ updater ctx s,
        configure updater ctx composition (s, composite) = .done (.ok ()) (s, composite) := by
  constructor
  · rintro ⟨htype, h⟩ updater ctx s
    exact configure_of_settled htype h s updater
  · intro h
    rcases course ⟨[]⟩ composition ({}, composite) with
      ⟨result, hcall, hresult⟩ | ⟨store, -, -, -, hactive, hcall⟩
    · have hdone := (hcall fun _ => Task.hang).symm.trans (h _ _ _)
      injection hdone with hok
      exact hresult hok
    · exact absurd ((hcall _).symm.trans (h _ _ _)) (persist_hang hactive)

end Configurator

/-! ## §3. The record of a call. -/

/-- How the updater fared that a call had store the composite. -/
structure UpdaterRun where
  /-- The state in which the updater was called. -/
  start : Session × Resource
  outcome : Except ConnectionError (Except Failure Unit)
  finish : Session × Resource

/-- Has the updater stored the composite? -/
def UpdaterRun.succeeded (w : UpdaterRun) : Bool :=
  match w.outcome with
  | .ok (.ok ()) => true
  | _ => false

theorem UpdaterRun.succeeded_iff {w : UpdaterRun} :
    w.succeeded = true ↔ w.outcome = .ok (.ok ()) := by
  unfold succeeded
  rcases w.outcome with e | f | _ <;> simp

/-- The record of a call that has ended. -/
structure Call where
  ctx : Context
  composition : CompositionSpec
  before : Session × Resource
  /-- What others did while the call was suspended. -/
  changes : List ((Session × Resource) × (Session × Resource))
  /-- The updater, if it was called. -/
  update : Option UpdaterRun
  result : Except ConnectionError Unit
  after : Session × Resource

namespace Call

/-- The turns of the call. -/
def turns (call : Call) : List ((Session × Resource) × (Session × Resource)) :=
  Progress.turns call.before call.changes call.after

/-- The turns that the updater had a part in. -/
def updateTurns (call : Call) : List ((Session × Resource) × (Session × Resource)) :=
  match call.update with
  | none => []
  | some w => Progress.turns w.start call.changes w.finish

/-- Did the updater store the composite? -/
def stored (call : Call) : Bool := call.update.any UpdaterRun.succeeded

/-- The call has done nothing, and would have done nothing with any updater. -/
structure Idle (call : Call) : Prop where
  update : call.update = none
  after : call.after = call.before
  call : ∀ updater, Configurator.configure updater call.ctx call.composition call.before
    = .done call.result call.before

/-- The call has returned without an error, for a composition of the composite's type that
has a default store. -/
structure Succeeds (call : Call) : Prop where
  result : call.result = .ok ()
  type : call.composition.appliesTo call.before.2.type = true
  store : call.composition.defaultStore ≠ none

/-- The record of a call with an updater. -/
structure Made (updater : Updater) (call : Call) : Prop where
  ends : (Configurator.configure updater call.ctx call.composition call.before).Ends call.changes
    call.result call.after
  alone : CompositeTask.LeftAlone call.changes
  /-- An updater that was not called makes no difference. -/
  uncalled : call.update = none → ∀ other,
    Configurator.configure other call.ctx call.composition call.before
      = .done call.result call.before
  /-- An updater that was called was given the composite with its default destination, under
  an active context. -/
  called : ∀ w, call.update = some w → ∃ store, call.composition.defaultStore = some store
    ∧ w.start = Configurator.assigned store call.before
    ∧ call.ctx.isCancelled call.before = false
    ∧ (∀ other, Configurator.configure other call.ctx call.composition call.before
        = Configurator.persist other call.ctx w.start)
    ∧ (call.ctx.run (updater call.ctx) w.start).Ends call.changes w.outcome w.finish

end Call

open Configurator in
/-- **Every call that ends has a record.** -/
theorem Configurator.exists_made {updater : Updater} {ctx : Context}
    {composition : CompositionSpec} {before after : Session × Resource}
    {changes : List ((Session × Resource) × (Session × Resource))}
    {result : Except ConnectionError Unit}
    (hends : (configure updater ctx composition before).Ends changes result after)
    (halone : CompositeTask.LeftAlone changes) :
    ∃ update, Call.Made updater ⟨ctx, composition, before, changes, update, result, after⟩ := by
  rcases course ctx composition before with
    ⟨result', hcall, -⟩ | ⟨store, hstore, -, -, hactive, hcall⟩
  · have hends' := hends
    rw [hcall, Progress.ends_done_iff] at hends'
    obtain ⟨-, rfl, -⟩ := hends'
    refine ⟨none, hends, halone, fun _ => hcall, ?_⟩
    rintro w ⟨⟩
  · have hends' := hends
    rw [hcall, ends_persist_iff] at hends'
    obtain ⟨outcome, finish, hrun, -, -⟩ := hends'
    refine ⟨some ⟨assigned store before, outcome, finish⟩, hends, halone, ?_, ?_⟩
    · rintro ⟨⟩
    · rintro w ⟨⟩
      exact ⟨store, hstore, rfl, hactive, hcall, hrun⟩

/-- A call that finishes with nothing else going on has a record. -/
theorem Configurator.exists_made_of_finish (updater : Updater) (ctx : Context)
    (composition : CompositionSpec) (before : Session × Resource) {after : Session × Resource}
    {result : Except ConnectionError Unit}
    (h : (configure updater ctx composition before).finish = some (result, after)) :
    ∃ changes update,
      Call.Made updater ⟨ctx, composition, before, changes, update, result, after⟩ := by
  obtain ⟨changes, hends, hsame⟩ := Progress.Ends.of_finish h
  obtain ⟨update, hmade⟩ :=
    exists_made hends fun change hmem => congrArg Prod.snd (hsame change hmem)
  exact ⟨changes, update, hmade⟩

namespace Call

variable {updater : Updater} {call : Call}

/-- How a call can have gone. -/
inductive Went (updater : Updater) (call : Call) : Prop where
  /-- It settled at once. -/
  | idle (hidle : call.Idle)
      (hsucceeds : call.Succeeds → call.before.2.destination ≠ none)
  /-- It had the updater store the composite with a destination. -/
  | asked (w : UpdaterRun) (store : String) (hupdate : call.update = some w)
      (hstore : call.composition.defaultStore = some store)
      (htype : call.composition.appliesTo call.before.2.type = true)
      (hnone : call.before.2.destination = none)
      (hstart : w.start = Configurator.assigned store call.before)
      (hrun : (call.ctx.run (updater call.ctx) w.start).Ends call.changes w.outcome w.finish)
      (hresult : call.result = Configurator.verdict w.outcome)
      (hafter : call.after = Configurator.concluded w.outcome w.finish)

open Configurator in
/-- **How a call can have gone.** -/
theorem Made.went (h : call.Made updater) : call.Went updater := by
  -- the record and the course of the call agree, since an updater that hangs tells them apart
  cases hupdate : call.update with
  | none =>
      have hcall := h.uncalled hupdate
      have hends := h.ends
      rw [hcall, Progress.ends_done_iff] at hends
      obtain ⟨-, -, hafter⟩ := hends
      refine .idle ⟨hupdate, hafter, hcall⟩ fun hsucceeds => ?_
      rcases course call.ctx call.composition call.before with
        ⟨result, hsettles, hresult⟩ | ⟨store, -, -, -, hactive, hasks⟩
      · have hsame : call.result = result := by
          have hdone := (hcall updater).symm.trans (hsettles updater)
          injection hdone
        rcases (hresult (hsame ▸ hsucceeds.result)).2 with hstore | hdestination
        · exact absurd hstore hsucceeds.store
        · exact hdestination
      · exact absurd ((hasks _).symm.trans (hcall _)) (persist_hang hactive)
  | some w =>
      obtain ⟨store, hstore, hstart, hactive, hcall, hrun⟩ := h.called w hupdate
      rcases course call.ctx call.composition call.before with
        ⟨result, hsettles, -⟩ | ⟨store', -, htype, hnone, -, -⟩
      · rw [hstart] at hcall
        exact absurd ((hcall _).symm.trans (hsettles _)) (persist_hang hactive)
      · have hends := h.ends
        rw [hcall, ends_persist_iff] at hends
        obtain ⟨outcome, finish, hrun', hresult, hafter⟩ := hends
        obtain ⟨rfl, rfl⟩ := hrun.unique hrun'
        exact .asked w store hupdate hstore htype hnone hstart hrun hresult hafter

/-! ## §4. What the counter of given destinations rises by. -/

/-- By how much the counter of given destinations rose in some turns. -/
def counted : List ((Session × Resource) × (Session × Resource)) → UInt64
  | [] => 0
  | turn :: rest =>
      turn.2.1.counters.configured - turn.1.1.counters.configured + counted rest

theorem counted_append (turns turns' : List ((Session × Resource) × (Session × Resource))) :
    counted (turns ++ turns') = counted turns + counted turns' := by
  induction turns with
  | nil => exact (UInt64.zero_add _).symm
  | cons turn rest ih =>
      rw [List.cons_append, counted, counted, ih, UInt64.add_assoc]

/-- Turns rise as their ends do. -/
theorem counted_turns {start start' stop stop' : Session × Resource} {n : UInt64}
    (hstart : start'.1.counters.configured = start.1.counters.configured)
    (hstop : stop'.1.counters.configured = stop.1.counters.configured + n)
    (changes : List ((Session × Resource) × (Session × Resource))) :
    counted (Progress.turns start' changes stop')
      = counted (Progress.turns start changes stop) + n := by
  induction changes generalizing start start' with
  | nil =>
      simp only [Progress.turns, counted, hstart, hstop]
      grind
  | cons change rest ih =>
      obtain ⟨left, found⟩ := change
      rw [Progress.turns, counted, Progress.turns, counted, hstart, @ih found found rfl,
        UInt64.add_assoc]

/-- The counter rises by one for a composite that was stored, besides what the updater
adds. -/
theorem Made.counted_eq (h : call.Made updater) :
    counted call.turns = counted call.updateTurns + if call.stored then 1 else 0 := by
  rcases h.went with ⟨⟨hupdate, hafter, hcall⟩, -⟩
    | ⟨w, store, hupdate, -, -, -, hstart, -, -, hafter⟩
  · have hends := h.ends
    rw [hcall, Progress.ends_done_iff] at hends
    simp [turns, updateTurns, stored, hupdate, hends.1, hafter, Progress.turns, counted]
  · have hturns : counted call.turns
        = counted (Progress.turns call.before call.changes
            (Configurator.concluded w.outcome w.finish)) := by
      rw [turns, hafter]
    have hstarted : call.before.1.counters.configured = w.start.1.counters.configured := by
      rw [hstart]
      rfl
    have hupdates : call.updateTurns = Progress.turns w.start call.changes w.finish := by
      simp [updateTurns, hupdate]
    rw [hturns, hupdates]
    have hstored : call.stored = w.succeeded := by simp [stored, hupdate]
    rw [hstored]
    by_cases hok : w.succeeded = true
    · rw [hok, UpdaterRun.succeeded_iff.1 hok]
      exact counted_turns hstarted rfl call.changes
    · rw [Bool.not_eq_true] at hok
      rw [hok, Configurator.concluded_of_ne]
      · exact counted_turns hstarted (by simp) call.changes
      · intro hsuccess
        rw [UpdaterRun.succeeded_iff.2 hsuccess] at hok
        cases hok

end Call

/-! ## §5. Calls one after the other. -/

/-- Calls with an updater on one composite, from the composite before the first to the one
after the last.  Between two calls the session may change in any way. -/
inductive Calls (updater : Updater) : Resource → List Call → Resource → Prop where
  | nil (composite : Resource) : Calls updater composite [] composite
  | cons {composite composite' : Resource} {call : Call} {calls : List Call}
      (hbefore : call.before.2 = composite) (hmade : call.Made updater)
      (hrest : Calls updater call.after.2 calls composite') :
      Calls updater composite (call :: calls) composite'

namespace Calls

variable {updater : Updater} {composite composite' : Resource} {calls : List Call}

theorem snoc (h : Calls updater composite calls composite') {call : Call}
    (hbefore : call.before.2 = composite') (hmade : call.Made updater) :
    Calls updater composite (calls ++ [call]) call.after.2 := by
  induction h with
  | nil composite => exact .cons hbefore hmade (.nil _)
  | cons hfirst hmade' _ ih => exact .cons hfirst hmade' (ih hbefore)

end Calls

end ConnectionRelay
