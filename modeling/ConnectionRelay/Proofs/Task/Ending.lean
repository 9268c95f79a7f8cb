/-
  ConnectionRelay.Proofs.Task.Ending
  ──────────────────────────────────
  **HOW A TASK ENDS.**

  While a task is suspended others may change the state in any way.  `Progress.Ends` says
  with which value and in which state a task ends, for what others did at each of its
  suspensions; so a statement about all ways a task can end is one about all moments at
  which others can act.  Main statements:

    • `Ends.unique` — what others do decides how a task ends,
    • `ends_bind_iff` — a sequence ends as its parts do, one after the other,
    • `Ends.of_finish` — with nothing else going on, a task ends as it finishes,
    • `Context.eq_cancelled_of_ends` — a task that is driven ends itself or is cancelled,
    • `Context.ends_run_iff` — under an active context it ends itself, as if it were not driven.
-/
import ConnectionRelay.Context

namespace ConnectionRelay

variable {σ α β : Type}

namespace Progress

/-! ## §1. Ends. -/

/-- A task ends with a value in a state.  Each of the changes is what others did while the
task was suspended: it leads from the state that the task had left to the one in which it
was resumed. -/
inductive Ends : Progress σ α → List (σ × σ) → α → σ → Prop where
  | done (a : α) (s : σ) : Ends (.done a s) [] a s
  | paused {left found s : σ} {resume : σ → Progress σ α} {changes : List (σ × σ)} {a : α}
      (h : Ends (resume found) changes a s) :
      Ends (.paused left resume) ((left, found) :: changes) a s
  | waiting {left found s : σ} {released : σ → Bool} {resume : σ → Progress σ α}
      {changes : List (σ × σ)} {a : α} (hreleased : released found = true)
      (h : Ends (resume found) changes a s) :
      Ends (.waiting left released resume) ((left, found) :: changes) a s

/-- The turns of a task that was started in one state and ended in another: each turn leads
from the state that the task found to the one it left. -/
def turns (start : σ) : List (σ × σ) → σ → List (σ × σ)
  | [], stop => [(start, stop)]
  | (left, found) :: rest, stop => (start, left) :: turns found rest stop

/-- What holds of all turns, as far as a part of the states is concerned, depends on that
part of the first and of the last state. -/
theorem forall_turns_congr {τ : Type} (part : σ → τ) (R : τ → τ → Prop)
    {start start' stop stop' : σ} (hstart : part start' = part start)
    (hstop : part stop' = part stop) {changes : List (σ × σ)}
    (h : ∀ turn ∈ turns start changes stop, R (part turn.1) (part turn.2)) :
    ∀ turn ∈ turns start' changes stop', R (part turn.1) (part turn.2) := by
  induction changes generalizing start start' with
  | nil =>
      refine List.forall_mem_singleton.2 ?_
      show R (part start') (part stop')
      rw [hstart, hstop]
      exact h _ List.mem_cons_self
  | cons change rest ih =>
      obtain ⟨left, found⟩ := change
      obtain ⟨hfirst, hrest⟩ := List.forall_mem_cons.1 h
      refine List.forall_mem_cons.2 ⟨?_, ih rfl hrest⟩
      show R (part start') (part left)
      rw [hstart]
      exact hfirst

variable {p : Progress σ α} {changes : List (σ × σ)} {s : σ}

theorem ends_done_iff {a b : α} {t : σ} :
    (Progress.done a t).Ends changes b s ↔ changes = [] ∧ b = a ∧ s = t := by
  constructor
  · intro h
    cases h
    exact ⟨rfl, rfl, rfl⟩
  · rintro ⟨rfl, rfl, rfl⟩
    exact .done b s

/-- What others do decides how a task ends. -/
theorem Ends.unique {a b : α} {t : σ} (h : p.Ends changes a s) (h' : p.Ends changes b t) :
    b = a ∧ t = s := by
  induction h with
  | done a s =>
      cases h'
      exact ⟨rfl, rfl⟩
  | paused _ ih =>
      cases h' with
      | paused h' => exact ih h'
  | waiting _ _ ih =>
      cases h' with
      | waiting _ h' => exact ih h'

/-! ## §2. Sequences. -/

theorem Ends.bind {f : α → σ → Progress σ β} {changes' : List (σ × σ)} {a : α} {b : β} {t : σ}
    (h : p.Ends changes a s) (hgo : (f a s).Ends changes' b t) :
    (p.bind f).Ends (changes ++ changes') b t := by
  induction h with
  | done a s => exact hgo
  | paused _ ih => exact .paused (ih hgo)
  | waiting hreleased _ ih => exact .waiting hreleased (ih hgo)

/-- **A sequence ends as its parts do.** -/
theorem ends_bind_iff {f : α → σ → Progress σ β} {b : β} {t : σ} :
    (p.bind f).Ends changes b t ↔
      ∃ earlier later a s, changes = earlier ++ later ∧ p.Ends earlier a s
        ∧ (f a s).Ends later b t := by
  constructor
  · -- on the first part, which the sequence follows suspension by suspension
    induction p generalizing changes with
    | done a s =>
        intro h
        exact ⟨[], changes, a, s, rfl, .done a s, h⟩
    | paused left resume ih =>
        intro h
        cases h with
        | @paused _ found _ _ rest _ hrest =>
            obtain ⟨earlier, later, a, s, rfl, hfirst, hgo⟩ := ih found hrest
            exact ⟨(left, found) :: earlier, later, a, s, rfl, .paused hfirst, hgo⟩
    | waiting left released resume ih =>
        intro h
        cases h with
        | @waiting _ found _ _ _ rest _ hreleased hrest =>
            obtain ⟨earlier, later, a, s, rfl, hfirst, hgo⟩ := ih found hrest
            exact ⟨(left, found) :: earlier, later, a, s, rfl, .waiting hreleased hfirst, hgo⟩
    | never left =>
        intro h
        cases h
  · rintro ⟨earlier, later, a, s, rfl, hfirst, hgo⟩
    exact hfirst.bind hgo

/-- What is done with a value at once leaves it to the task before it how to end. -/
theorem ends_bind_done_iff {f : α → β} {go : α → σ → σ} {b : β} {t : σ} :
    (p.bind fun a s => .done (f a) (go a s)).Ends changes b t ↔
      ∃ a s, p.Ends changes a s ∧ b = f a ∧ t = go a s := by
  rw [ends_bind_iff]
  constructor
  · rintro ⟨earlier, later, a, s, rfl, hends, hgo⟩
    obtain ⟨rfl, hb, ht⟩ := ends_done_iff.1 hgo
    rw [List.append_nil]
    exact ⟨a, s, hends, hb, ht⟩
  · rintro ⟨a, s, hends, rfl, rfl⟩
    exact ⟨changes, [], a, s, (List.append_nil _).symm, hends, .done _ _⟩

/-! ## §3. With nothing else going on. -/

/-- **A task that finishes ends** without any change by others. -/
theorem Ends.of_finish {a : α} (h : p.finish = some (a, s)) :
    ∃ changes, p.Ends changes a s ∧ ∀ change ∈ changes, change.2 = change.1 := by
  induction p with
  | done b t =>
      cases h
      exact ⟨[], .done a s, fun _ hmem => by cases hmem⟩
  | paused left resume ih =>
      obtain ⟨changes, hends, hsame⟩ := ih left h
      refine ⟨(left, left) :: changes, .paused hends, fun change hmem => ?_⟩
      rcases List.mem_cons.1 hmem with rfl | hmem
      · rfl
      · exact hsame change hmem
  | waiting left released resume ih =>
      unfold finish at h
      by_cases hreleased : released left = true
      · rw [if_pos hreleased] at h
        obtain ⟨changes, hends, hsame⟩ := ih left h
        refine ⟨(left, left) :: changes, .waiting hreleased hends, fun change hmem => ?_⟩
        rcases List.mem_cons.1 hmem with rfl | hmem
        · rfl
        · exact hsame change hmem
      · rw [if_neg hreleased] at h
        cases h
  | never left => cases h

end Progress

/-! ## §4. Under a context. -/

/-- Only a cancelled context keeps a driven task from its own end. -/
theorem Context.eq_cancelled_of_ends [HasTokens σ] {ctx : Context} {t : Task σ α} {s s' : σ}
    {changes : List (σ × σ)} {e : ConnectionError}
    (h : (ctx.run t s).Ends changes (.error e) s') : e = .cancelled := by
  -- given up at once, or at one of the resumptions
  have hstopped : ∀ {p : Progress σ α} {s changes},
      (∀ {changes}, (ctx.guard p).Ends changes (.error e) s' → e = .cancelled) →
      Progress.Ends (if ctx.isCancelled s then .done (.error .cancelled) s else ctx.guard p) changes
        (.error e) s' → e = .cancelled := by
    intro p s changes hp hends
    by_cases hctx : ctx.isCancelled s = true
    · rw [if_pos hctx, Progress.ends_done_iff] at hends
      exact Except.error.inj hends.2.1
    · rw [if_neg hctx] at hends
      exact hp hends
  have hguard : ∀ (p : Progress σ α) {changes}, (ctx.guard p).Ends changes (.error e) s' →
      e = .cancelled := by
    intro p
    induction p with
    | done a s =>
        intro changes hends
        cases hends
    | paused left resume ih =>
        intro changes hends
        cases hends with
        | paused hends => exact hstopped (ih _) hends
    | waiting left released resume ih =>
        intro changes hends
        cases hends with
        | waiting _ hends => exact hstopped (ih _) hends
    | never left =>
        intro changes hends
        cases hends with
        | waiting _ hends => exact Except.error.inj (Progress.ends_done_iff.1 hends).2.1
  exact hstopped (hguard (t s)) h

/-- A resumption that finds the context active goes on with the task. -/
theorem Context.ends_resumed_iff [HasTokens σ] {ctx : Context} {p : Progress σ α} {found s' : σ}
    {changes : List (σ × σ)} {r : Except ConnectionError α}
    (hfound : ctx.isCancelled found = false) :
    Progress.Ends (if ctx.isCancelled found then .done (.error .cancelled) found else ctx.guard p)
      changes r s' ↔ (ctx.guard p).Ends changes r s' := by
  rw [hfound, if_neg Bool.false_ne_true]

/-- While the context is active, a started task goes on as if it were not driven. -/
theorem Context.ends_guard_iff [HasTokens σ] {ctx : Context} {p : Progress σ α} {s' : σ}
    {changes : List (σ × σ)} {r : Except ConnectionError α}
    (hactive : ∀ change ∈ changes, ctx.isCancelled change.2 = false) :
    (ctx.guard p).Ends changes r s' ↔ ∃ a, r = .ok a ∧ p.Ends changes a s' := by
  constructor
  · -- on the started task; each resumption finds the context active
    induction p generalizing changes with
    | done a s =>
        intro hends
        cases hends
        exact ⟨a, rfl, .done a s'⟩
    | paused left resume ih =>
        intro hends
        cases hends with
        | paused hends =>
            obtain ⟨hfound, hrest⟩ := List.forall_mem_cons.1 hactive
            obtain ⟨a, hr, hends⟩ := ih _ hrest ((ends_resumed_iff hfound).1 hends)
            exact ⟨a, hr, .paused hends⟩
    | waiting left released resume ih =>
        intro hends
        cases hends with
        | waiting hreleased hends =>
            obtain ⟨hfound, hrest⟩ := List.forall_mem_cons.1 hactive
            obtain ⟨a, hr, hends⟩ := ih _ hrest ((ends_resumed_iff hfound).1 hends)
            refine ⟨a, hr, .waiting ?_ hends⟩
            exact (Bool.or_eq_true_iff.1 hreleased).resolve_left
              (by rw [hfound]; exact Bool.false_ne_true)
    | never left =>
        intro hends
        cases hends with
        | waiting hcancelled _ =>
            obtain ⟨hfound, -⟩ := List.forall_mem_cons.1 hactive
            exact absurd hcancelled (by rw [hfound]; exact Bool.false_ne_true)
  · rintro ⟨a, rfl, hends⟩
    induction hends with
    | done a s => exact .done (Except.ok a) s
    | paused _ ih =>
        obtain ⟨hfound, hrest⟩ := List.forall_mem_cons.1 hactive
        exact .paused ((ends_resumed_iff hfound).2 (ih hrest))
    | waiting hreleased _ ih =>
        obtain ⟨hfound, hrest⟩ := List.forall_mem_cons.1 hactive
        exact .waiting (Bool.or_eq_true_iff.2 (.inr hreleased))
          ((ends_resumed_iff hfound).2 (ih hrest))

/-- **Under an active context** a task that is driven ends as the task itself does. -/
theorem Context.ends_run_iff [HasTokens σ] {ctx : Context} {t : Task σ α} {s s' : σ}
    {changes : List (σ × σ)} {r : Except ConnectionError α} (hs : ctx.isCancelled s = false)
    (hactive : ∀ change ∈ changes, ctx.isCancelled change.2 = false) :
    (ctx.run t s).Ends changes r s' ↔ ∃ a, r = .ok a ∧ (t s).Ends changes a s' := by
  rw [run_of_active hs]
  exact ends_guard_iff hactive

end ConnectionRelay
