/-
  ConnectionRelay.Proofs.Cancellation.Plan
  ────────────────────────────────────────
  **WHAT CANCELLATION MAKES OF AN OPERATION.**

  The plan of an operation says what it calls, one after the other, and what it does with
  the answers; it says nothing of cancellation.  An operation obeys its plan under a
  context (`Obeys`) if it does what the plan says as long as the context is active, and
  from the moment at which it is cancelled starts nothing that the plan still calls: it
  stops there, or finishes if nothing is left to be called.  A call that is driven under
  the context is given up as soon as it is resumed in a state with the context cancelled.
  Main statements:

    • `Obeys.stopped_of_left` — an obedient task stops if a call is left, at once or after
      some work of its own, as long as that work lets no token fire (`Plan.Steady`),
    • `Obeys.stopped_after_call`, `Obeys.stopped_after_drive` — a task stops after a call
      that has returned with the context cancelled, if another call is left,
    • `Drives.stopped_of_resume` — and so does one whose driven call is still under way,
    • `Obeys.check`, `Obeys.call_bind`, `Obeys.run_bind` — the three ways in which
      operations meet the context keep to the plan.
-/
import ConnectionRelay.Context
import ConnectionRelay.Proofs.Task.Reaching

namespace ConnectionRelay

variable {σ β ρ : Type}

/-! ## §1. Plans. -/

/-- What an operation does, were it not for cancellation. -/
inductive Plan (σ ρ : Type) : Type 1 where
  /-- Nothing more is called; this is the result. -/
  | finish (result : ρ)
  /-- Some work of its own on the state. -/
  | work (act : σ → σ) (next : Plan σ ρ)
  /-- Look at the state. -/
  | look (next : σ → Plan σ ρ)
  /-- Start a collaborator that is itself made of calls. -/
  | enter (next : Plan σ ρ)
  /-- Call a collaborator, and wait for it as long as it takes. -/
  | call {β : Type} (t : Task σ β) (next : β → Plan σ ρ)
  /-- Call a collaborator, driven under the context. -/
  | drive {β : Type} (t : Task σ β) (next : β → Plan σ ρ)

/-! ## §2. Obedience. -/

section Obedience

variable [HasTokens σ] (ctx : Context) (stopped : σ → Progress σ ρ → Prop)

mutual

/-- From a state, a task obeys a plan under a context; `stopped` says how the task may end
in a state with the context cancelled. -/
inductive Obeys : Plan σ ρ → σ → Progress σ ρ → Prop where
  | finish (r : ρ) (s : σ) : Obeys (.finish r) s (.done r s)
  /-- Only a cancelled context stops a task. -/
  | stop {plan : Plan σ ρ} {s : σ} {p : Progress σ ρ} (hcancelled : ctx.isCancelled s = true)
      (hstopped : stopped s p) : Obeys plan s p
  | work {act : σ → σ} {next : Plan σ ρ} {s : σ} {p : Progress σ ρ}
      (h : Obeys next (act s) p) : Obeys (.work act next) s p
  | look {next : σ → Plan σ ρ} {s : σ} {p : Progress σ ρ}
      (h : Obeys (next s) s p) : Obeys (.look next) s p
  /-- A collaborator is started only while the context is active; so are the next two. -/
  | enter {next : Plan σ ρ} {s : σ} {p : Progress σ ρ} (hactive : ctx.isCancelled s = false)
      (h : Obeys next s p) : Obeys (.enter next) s p
  | call {β : Type} {t : Task σ β} {next : β → Plan σ ρ} {s : σ} {p : Progress σ ρ}
      (hactive : ctx.isCancelled s = false) (h : Awaits next (t s) p) :
      Obeys (.call t next) s p
  | drive {β : Type} {t : Task σ β} {next : β → Plan σ ρ} {s : σ} {p : Progress σ ρ}
      (hactive : ctx.isCancelled s = false) (h : Drives next (t s) p) :
      Obeys (.drive t next) s p

/-- A task waits for a collaborator, and then obeys the rest of the plan. -/
inductive Awaits : {β : Type} → (β → Plan σ ρ) → Progress σ β → Progress σ ρ → Prop where
  | done {β : Type} {next : β → Plan σ ρ} {b : β} {s : σ} {p : Progress σ ρ}
      (h : Obeys (next b) s p) : Awaits next (.done b s) p
  | paused {β : Type} {next : β → Plan σ ρ} {s : σ} {resume : σ → Progress σ β}
      {resume' : σ → Progress σ ρ} (h : ∀ s', Awaits next (resume s') (resume' s')) :
      Awaits next (.paused s resume) (.paused s resume')
  | waiting {β : Type} {next : β → Plan σ ρ} {s : σ} {released : σ → Bool}
      {resume : σ → Progress σ β} {resume' : σ → Progress σ ρ}
      (h : ∀ s', Awaits next (resume s') (resume' s')) :
      Awaits next (.waiting s released resume) (.waiting s released resume')
  | never {β : Type} {next : β → Plan σ ρ} {s : σ} : Awaits next (.never s) (.never s)

/-- A task drives a collaborator: where it is resumed with the context cancelled it stops,
and elsewhere the collaborator goes on. -/
inductive Drives : {β : Type} → (β → Plan σ ρ) → Progress σ β → Progress σ ρ → Prop where
  | done {β : Type} {next : β → Plan σ ρ} {b : β} {s : σ} {p : Progress σ ρ}
      (h : Obeys (next b) s p) : Drives next (.done b s) p
  | paused {β : Type} {next : β → Plan σ ρ} {s : σ} {resume : σ → Progress σ β}
      {resume' : σ → Progress σ ρ}
      (hstop : ∀ s', ctx.isCancelled s' = true → stopped s' (resume' s'))
      (hgo : ∀ s', ctx.isCancelled s' = false → Drives next (resume s') (resume' s')) :
      Drives next (.paused s resume) (.paused s resume')
  | waiting {β : Type} {next : β → Plan σ ρ} {s : σ} {released : σ → Bool}
      {resume : σ → Progress σ β} {resume' : σ → Progress σ ρ}
      (hstop : ∀ s', ctx.isCancelled s' = true → stopped s' (resume' s'))
      (hgo : ∀ s', ctx.isCancelled s' = false → Drives next (resume s') (resume' s')) :
      Drives next (.waiting s released resume)
        (.waiting s (fun s' => ctx.isCancelled s' || released s') resume')
  | never {β : Type} {next : β → Plan σ ρ} {s : σ} {resume' : σ → Progress σ ρ}
      (hstop : ∀ s', ctx.isCancelled s' = true → stopped s' (resume' s')) :
      Drives next (.never s) (.waiting s ctx.isCancelled resume')

end

end Obedience

/-! ## §3. What is left of a plan. -/

/-- The plan calls something next. -/
inductive Plan.Calls : Plan σ ρ → Prop where
  | enter (next : Plan σ ρ) : (Plan.enter next).Calls
  | call {β : Type} (t : Task σ β) (next : β → Plan σ ρ) : (Plan.call t next).Calls
  | drive {β : Type} (t : Task σ β) (next : β → Plan σ ρ) : (Plan.drive t next).Calls

/-- The plan calls something, next or after work of its own that begins in a state. -/
def Plan.Left : Plan σ ρ → σ → Prop
  | .finish _, _ => False
  | .work act next, s => next.Left (act s)
  | .look next, s => (next s).Left s
  | .enter _, _ => True
  | .call _ _, _ => True
  | .drive _ _, _ => True

/-- No token fires in the work of the plan itself. -/
def Plan.Steady [HasTokens σ] : Plan σ ρ → Prop
  | .finish _ => True
  | .work act next => (∀ s, HasTokens.fired (act s) = HasTokens.fired s) ∧ next.Steady
  | .look next => ∀ s, (next s).Steady
  | .enter next => next.Steady
  | .call _ next => ∀ b, (next b).Steady
  | .drive _ next => ∀ b, (next b).Steady

/-- A task has stopped in a state with the context cancelled. -/
def Stops [HasTokens σ] (ctx : Context) (stopped : σ → Progress σ ρ → Prop)
    (p : Progress σ ρ) : Prop :=
  ∃ s, ctx.isCancelled s = true ∧ stopped s p

/-! ## §4. Tasks that are resumed. -/

section Turns

variable [HasTokens σ] {ctx : Context} {stopped : σ → Progress σ ρ → Prop} {next : β → Plan σ ρ}
  {t t' : Progress σ β} {p : Progress σ ρ} {s : σ}

/-- A task that waits is suspended and resumed together with its collaborator. -/
theorem Awaits.turn (h : Awaits ctx stopped next t p) (hresumes : t.resume? s = some t') :
    p.state = t.state ∧ ∃ p', p.resume? s = some p' ∧ Awaits ctx stopped next t' p' := by
  cases h with
  | done h => cases hresumes
  | paused h =>
      cases hresumes
      exact ⟨rfl, _, rfl, h s⟩
  | waiting h =>
      simp only [Progress.resume?, Option.ite_none_right_eq_some, Option.some.injEq] at hresumes
      obtain ⟨hreleased, rfl⟩ := hresumes
      exact ⟨rfl, _, if_pos hreleased, h s⟩
  | never => cases hresumes

/-- So it comes as far as its collaborator does. -/
theorem Awaits.reaches {changes : List (σ × σ)} (hreaches : t.Reaches changes t')
    (h : Awaits ctx stopped next t p) :
    ∃ p', p.Reaches changes p' ∧ Awaits ctx stopped next t' p' := by
  -- on the turns of the collaborator, which are turns of the task as well
  induction hreaches generalizing p with
  | here t => exact ⟨p, .here p, h⟩
  | turn hresumes _ ih =>
      obtain ⟨hstate, p', hresumes', h'⟩ := h.turn hresumes
      obtain ⟨q, hrest, hq⟩ := ih h'
      exact ⟨q, hstate ▸ .turn hresumes' hrest, hq⟩

theorem Awaits.obeys {b : β} (h : Awaits ctx stopped next (.done b s) p) :
    Obeys ctx stopped (next b) s p := by
  cases h with
  | done h => exact h

/-- A task that drives a collaborator is suspended with it.  Where the collaborator can be
resumed the task is resumed, and stops if it finds the context cancelled. -/
theorem Drives.turn (h : Drives ctx stopped next t p) (hresumes : t.resume? s = some t') :
    p.state = t.state ∧ ∃ p', p.resume? s = some p'
      ∧ (ctx.isCancelled s = true → stopped s p')
      ∧ (ctx.isCancelled s = false → Drives ctx stopped next t' p') := by
  cases h with
  | done h => cases hresumes
  | paused hstop hgo =>
      cases hresumes
      exact ⟨rfl, _, rfl, hstop s, hgo s⟩
  | waiting hstop hgo =>
      simp only [Progress.resume?, Option.ite_none_right_eq_some, Option.some.injEq] at hresumes
      obtain ⟨hreleased, rfl⟩ := hresumes
      exact ⟨rfl, _, if_pos (Bool.or_eq_true_iff.2 (.inr hreleased)), hstop s, hgo s⟩
  | never hstop => cases hresumes

/-- It comes as far as its collaborator does, or stops before. -/
theorem Drives.reaches {changes : List (σ × σ)} (hreaches : t.Reaches changes t')
    (h : Drives ctx stopped next t p) :
    (∃ p', p.Reaches changes p' ∧ Drives ctx stopped next t' p')
      ∨ ∃ earlier q, earlier <+: changes ∧ p.Reaches earlier q ∧ Stops ctx stopped q := by
  -- on the turns of the collaborator; the first that finds the context cancelled is the last
  induction hreaches generalizing p with
  | here t => exact .inl ⟨p, .here p, h⟩
  | @turn t t' q found changes hresumes _ ih =>
      obtain ⟨hstate, p', hresumes', hstop, hgo⟩ := h.turn hresumes
      have hturn : ∀ {earlier q}, p'.Reaches earlier q →
          p.Reaches ((t.state, found) :: earlier) q := fun h => hstate ▸ .turn hresumes' h
      cases hfound : ctx.isCancelled found with
      | true =>
          have hfirst : [(t.state, found)] <+: (t.state, found) :: changes :=
            List.prefix_cons_inj _ |>.2 List.nil_prefix
          exact .inr ⟨_, p', hfirst, hturn (.here p'), found, hfound, hstop hfound⟩
      | false =>
          rcases ih (hgo hfound) with ⟨q, hrest, hq⟩ | ⟨earlier, q, hearlier, hrest, hstops⟩
          · exact .inl ⟨q, hturn hrest, hq⟩
          · exact .inr ⟨_, q, List.prefix_cons_inj _ |>.2 hearlier, hturn hrest, hstops⟩

theorem Drives.obeys {b : β} (h : Drives ctx stopped next (.done b s) p) :
    Obeys ctx stopped (next b) s p := by
  cases h with
  | done h => exact h

end Turns

/-! ## §5. Stopping. -/

/-- A task whose driven call has not ended stops as soon as it is resumed in a state with
the context cancelled. -/
theorem Drives.stopped_of_resume [HasTokens σ] {ctx : Context} {stopped : σ → Progress σ ρ → Prop}
    {next : β → Plan σ ρ} {t : Progress σ β} {p q : Progress σ ρ} {s : σ}
    (h : Drives ctx stopped next t p) (hgoing : ∀ b s, t ≠ .done b s)
    (hresumes : p.resume? s = some q) (hcancelled : ctx.isCancelled s = true) : stopped s q := by
  cases h with
  | done h => exact absurd rfl (hgoing _ _)
  | paused hstop hgo =>
      cases hresumes
      exact hstop s hcancelled
  | waiting hstop hgo =>
      unfold Progress.resume? at hresumes
      simp only [hcancelled, Bool.true_or, if_true] at hresumes
      cases hresumes
      exact hstop s hcancelled
  | never hstop =>
      unfold Progress.resume? at hresumes
      simp only [hcancelled, if_true] at hresumes
      cases hresumes
      exact hstop s hcancelled

namespace Obeys

variable [HasTokens σ] {ctx : Context} {stopped : σ → Progress σ ρ → Prop}
  {plan : Plan σ ρ} {next : β → Plan σ ρ} {s : σ}

/-- With the context cancelled, a task that has something to call next stops. -/
theorem stopped_of_calls {p : Progress σ ρ} (hcalls : plan.Calls)
    (hcancelled : ctx.isCancelled s = true) (h : Obeys ctx stopped plan s p) : stopped s p := by
  cases h with
  | stop _ hstopped => exact hstopped
  | finish r s => cases hcalls
  | work h => cases hcalls
  | look h => cases hcalls
  | enter hactive h => exact absurd hcancelled (by simp [hactive])
  | call hactive h => exact absurd hcancelled (by simp [hactive])
  | drive hactive h => exact absurd hcancelled (by simp [hactive])

/-- An active context does not keep a task from starting a collaborator. -/
theorem of_enter {next : Plan σ ρ} {p : Progress σ ρ} (hactive : ctx.isCancelled s = false)
    (h : Obeys ctx stopped (.enter next) s p) : Obeys ctx stopped next s p := by
  cases h with
  | stop hctx _ => exact absurd hctx (by simp [hactive])
  | enter _ h => exact h

theorem awaits {t : Task σ β} {p : Progress σ ρ} (hactive : ctx.isCancelled s = false)
    (h : Obeys ctx stopped (.call t next) s p) : Awaits ctx stopped next (t s) p := by
  cases h with
  | stop hctx _ => exact absurd hctx (by simp [hactive])
  | call _ h => exact h

theorem drives {t : Task σ β} {p : Progress σ ρ} (hactive : ctx.isCancelled s = false)
    (h : Obeys ctx stopped (.drive t next) s p) : Drives ctx stopped next (t s) p := by
  cases h with
  | stop hctx _ => exact absurd hctx (by simp [hactive])
  | drive _ h => exact h

/-- **A task that has a call left stops**, at the latest when it comes to the call. -/
theorem stopped_of_left {p : Progress σ ρ} (h : Obeys ctx stopped plan s p)
    (hsteady : plan.Steady) (hcancelled : ctx.isCancelled s = true) (hleft : plan.Left s) :
    Stops ctx stopped p := by
  -- on the plan; the work that comes before the call leaves the context cancelled
  induction plan generalizing s with
  | finish r => exact hleft.elim
  | work act next ih =>
      cases h with
      | stop _ hstopped => exact ⟨s, hcancelled, hstopped⟩
      | work h =>
          have hafter : ctx.isCancelled (act s) = true := by
            rw [Context.isCancelled_congr (hsteady.1 s), hcancelled]
          exact ih h hsteady.2 hafter hleft
  | look next ih =>
      cases h with
      | stop _ hstopped => exact ⟨s, hcancelled, hstopped⟩
      | look h => exact ih s h (hsteady s) hcancelled hleft
  | enter next => exact ⟨s, hcancelled, h.stopped_of_calls (.enter next) hcancelled⟩
  | call t next => exact ⟨s, hcancelled, h.stopped_of_calls (.call t next) hcancelled⟩
  | drive t next => exact ⟨s, hcancelled, h.stopped_of_calls (.drive t next) hcancelled⟩

/-- **A task stops after a call** that has returned with the context cancelled, if a call is
left then. -/
theorem stopped_after_call {t : Task σ β} {p : Progress σ ρ} {changes : List (σ × σ)} {b : β}
    {s' : σ} (hactive : ctx.isCancelled s = false) (hends : (t s).Ends changes b s')
    (hsteady : (next b).Steady) (hleft : (next b).Left s')
    (hcancelled : ctx.isCancelled s' = true) (h : Obeys ctx stopped (.call t next) s p) :
    ∃ q, p.Reaches changes q ∧ Stops ctx stopped q := by
  obtain ⟨q, hreaches, hq⟩ := (h.awaits hactive).reaches (Progress.reaches_done_iff.2 hends)
  exact ⟨q, hreaches, hq.obeys.stopped_of_left hsteady hcancelled hleft⟩

/-- **A task stops in or after a driven call**, if the call would return with the context
cancelled and a call is left then. -/
theorem stopped_after_drive {t : Task σ β} {p : Progress σ ρ} {changes : List (σ × σ)} {b : β}
    {s' : σ} (hactive : ctx.isCancelled s = false) (hends : (t s).Ends changes b s')
    (hsteady : (next b).Steady) (hleft : (next b).Left s')
    (hcancelled : ctx.isCancelled s' = true) (h : Obeys ctx stopped (.drive t next) s p) :
    ∃ earlier q, earlier <+: changes ∧ p.Reaches earlier q ∧ Stops ctx stopped q := by
  rcases (h.drives hactive).reaches (Progress.reaches_done_iff.2 hends) with
    ⟨q, hreaches, hq⟩ | hstops
  · have hstops := hq.obeys.stopped_of_left hsteady hcancelled hleft
    exact ⟨changes, q, List.prefix_refl _, hreaches, hstops⟩
  · exact hstops

/-! ## §6. How operations meet the context. -/

/-- A look at the context before going on. -/
theorem check {go : Except ConnectionError Unit → σ → Progress σ ρ}
    (hstop : ctx.isCancelled s = true → stopped s (go (.error .cancelled) s))
    (hgo : ctx.isCancelled s = false → Obeys ctx stopped plan s (go (.ok ()) s)) :
    Obeys ctx stopped plan s ((ctx.ensureActive s).bind go) := by
  unfold Context.ensureActive
  by_cases hctx : ctx.isCancelled s = true
  · rw [if_pos hctx]
    exact .stop hctx (hstop hctx)
  · have hactive : ctx.isCancelled s = false := by simpa using hctx
    rw [if_neg hctx]
    exact hgo hactive

theorem awaits_bind {go : β → σ → Progress σ ρ}
    (hgo : ∀ b s, Obeys ctx stopped (next b) s (go b s)) (p : Progress σ β) :
    Awaits ctx stopped next p (p.bind go) := by
  induction p with
  | done b s => exact .done (hgo b s)
  | paused s resume ih => exact .paused ih
  | waiting s released resume ih => exact .waiting ih
  | never s => exact .never

/-- Waiting for a collaborator that was started while the context is active. -/
theorem call_bind (hactive : ctx.isCancelled s = false) {t : Task σ β} {go : β → σ → Progress σ ρ}
    (hgo : ∀ b s, Obeys ctx stopped (next b) s (go b s)) :
    Obeys ctx stopped (.call t next) s ((t s).bind go) :=
  .call hactive (awaits_bind hgo (t s))

theorem drives_guard {go : Except ConnectionError β → σ → Progress σ ρ}
    (hstop : ∀ s, ctx.isCancelled s = true → stopped s (go (.error .cancelled) s))
    (hgo : ∀ b s, Obeys ctx stopped (next b) s (go (.ok b) s)) (p : Progress σ β) :
    Drives ctx stopped next p ((ctx.guard p).bind go) := by
  -- on the progress of the call, as far as it may still come
  induction p with
  | done b s => exact .done (hgo b s)
  | paused s resume ih =>
      refine .paused (fun s' hctx => ?_) fun s' hctx => ?_
      · simp only [hctx, if_true]
        exact hstop s' hctx
      · simp only [hctx]
        exact ih s'
  | waiting s released resume ih =>
      refine .waiting (fun s' hctx => ?_) fun s' hctx => ?_
      · simp only [hctx, if_true]
        exact hstop s' hctx
      · simp only [hctx]
        exact ih s'
  | never s => exact .never fun s' hctx => hstop s' hctx

/-- Driving a collaborator under the context. -/
theorem run_bind {t : Task σ β} {go : Except ConnectionError β → σ → Progress σ ρ}
    (hstop : ∀ s, ctx.isCancelled s = true → stopped s (go (.error .cancelled) s))
    (hgo : ∀ b s, Obeys ctx stopped (next b) s (go (.ok b) s)) :
    Obeys ctx stopped (.drive t next) s ((ctx.run t s).bind go) := by
  by_cases hctx : ctx.isCancelled s = true
  · rw [Context.run_of_isCancelled hctx]
    exact .stop hctx (hstop s hctx)
  · have hactive : ctx.isCancelled s = false := by simpa using hctx
    rw [Context.run_of_active hactive]
    exact .drive hactive (drives_guard hstop hgo (t s))

end Obeys

end ConnectionRelay
