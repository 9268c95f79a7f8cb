/-
  ConnectionRelay.Proofs.Task.Lockstep
  ────────────────────────────────────
  **TWO RUNS IN LOCKSTEP.**

  Two tasks run in lockstep if they are suspended at the same points, each time in states
  that are related, and end together, with values that are related too.  In between anything
  may happen to both states, as long as they are related again when the tasks are resumed.
  Main statements:

    • `Lockstep.bind` — a sequence runs in lockstep if its parts do,
    • `Lockstep.guard` — so does a task under a context that is cancelled in both runs at once,
    • `Lockstep.sameEnd` — with nothing else going on, both have the same end.
-/
import ConnectionRelay.Context

namespace ConnectionRelay

variable {σ α β γ δ ε : Type}

/-! ## §1. Progress in lockstep. -/

/-- Progress in lockstep. -/
inductive Lockstep (R : σ → σ → Prop) (V : α → β → Prop) :
    Progress σ α → Progress σ β → Prop where
  | done {a : α} {b : β} {s t : σ} (hvalue : V a b) (hstate : R s t) :
      Lockstep R V (.done a s) (.done b t)
  | paused {s t : σ} {resume : σ → Progress σ α} {resume' : σ → Progress σ β} (hstate : R s t)
      (hresume : ∀ s t, R s t → Lockstep R V (resume s) (resume' t)) :
      Lockstep R V (.paused s resume) (.paused t resume')
  | waiting {s t : σ} {released released' : σ → Bool} {resume : σ → Progress σ α}
      {resume' : σ → Progress σ β} (hstate : R s t)
      (hreleased : ∀ s t, R s t → released s = released' t)
      (hresume : ∀ s t, R s t → Lockstep R V (resume s) (resume' t)) :
      Lockstep R V (.waiting s released resume) (.waiting t released' resume')
  | never {s t : σ} (hstate : R s t) : Lockstep R V (.never s) (.never t)

/-- The same error, or values that are related. -/
inductive SameOutcome (V : α → β → Prop) : Except ε α → Except ε β → Prop where
  | error (e : ε) : SameOutcome V (.error e) (.error e)
  | ok {a : α} {b : β} (hvalue : V a b) : SameOutcome V (.ok a) (.ok b)

/-- With nothing else going on, both tasks end with the same value, in states that are related,
or none of them ends. -/
def SameEnd (R : σ → σ → Prop) (p q : Progress σ α) : Prop :=
  Option.Rel (fun x y => x.1 = y.1 ∧ R x.2 y.2) p.finish q.finish

namespace Lockstep

variable {R : σ → σ → Prop} {V : α → β → Prop} {W : γ → δ → Prop}
variable {p : Progress σ α} {q : Progress σ β}

/-- A sequence runs in lockstep if its parts do. -/
theorem bind {f : α → σ → Progress σ γ} {g : β → σ → Progress σ δ} (h : Lockstep R V p q)
    (hgo : ∀ a b s t, V a b → R s t → Lockstep R W (f a s) (g b t)) :
    Lockstep R W (p.bind f) (q.bind g) := by
  -- on the lockstep of the first part, as `Progress.bind` is on its progress
  induction h with
  | done hvalue hstate => exact hgo _ _ _ _ hvalue hstate
  | paused hstate _ ih => exact .paused hstate ih
  | waiting hstate hreleased _ ih => exact .waiting hstate hreleased ih
  | never hstate => exact .never hstate

/-- **Tasks in lockstep with the same values have the same end.** -/
theorem sameEnd {p q : Progress σ α} (h : Lockstep R Eq p q) : SameEnd R p q := by
  induction h with
  | done hvalue hstate => exact .some ⟨hvalue, hstate⟩
  | paused hstate _ ih => exact ih _ _ hstate
  | @waiting s t released released' _ _ hstate hreleased _ ih =>
      -- the states in which both wait pass both tests or none
      unfold SameEnd Progress.finish
      rw [← hreleased s t hstate]
      by_cases h : released s = true
      · rw [if_pos h, if_pos h]
        exact ih s t hstate
      · rw [if_neg h, if_neg h]
        exact .none
  | never hstate => exact .none

variable [HasTokens σ] {ctx : Context} {s t : σ}

/-- Both runs stop here if the context is cancelled, and go on together if it is not. -/
theorem unlessCancelled (hctx : ctx.isCancelled s = ctx.isCancelled t) (hstate : R s t)
    (h : Lockstep R (@SameOutcome α β ConnectionError V) (ctx.guard p) (ctx.guard q)) :
    Lockstep R (SameOutcome V)
      (if ctx.isCancelled s then .done (.error .cancelled) s else ctx.guard p)
      (if ctx.isCancelled t then .done (.error .cancelled) t else ctx.guard q) := by
  rw [← hctx]
  by_cases hcancelled : ctx.isCancelled s = true
  · rw [if_pos hcancelled, if_pos hcancelled]
    exact .done (.error _) hstate
  · rw [if_neg hcancelled, if_neg hcancelled]
    exact h

/-- **Under a context** that is cancelled in both runs at once. -/
theorem guard (hctx : ∀ s t, R s t → ctx.isCancelled s = ctx.isCancelled t)
    (h : Lockstep R V p q) : Lockstep R (SameOutcome V) (ctx.guard p) (ctx.guard q) := by
  induction h with
  | done hvalue hstate => exact .done (.ok hvalue) hstate
  | paused hstate _ ih =>
      exact .paused hstate fun s t hst => unlessCancelled (hctx s t hst) hst (ih s t hst)
  | waiting hstate hreleased _ ih =>
      refine .waiting hstate (fun s t hst => ?_)
        fun s t hst => unlessCancelled (hctx s t hst) hst (ih s t hst)
      rw [hctx s t hst, hreleased s t hst]
  | never hstate => exact .waiting hstate hctx fun s t hst => .done (.error _) hst

/-- The same from where the tasks are started. -/
theorem run {x : Task σ α} {y : Task σ β}
    (hctx : ∀ s t, R s t → ctx.isCancelled s = ctx.isCancelled t) (hstate : R s t)
    (h : Lockstep R V (x s) (y t)) :
    Lockstep R (SameOutcome V) (ctx.run x s) (ctx.run y t) :=
  unlessCancelled (hctx s t hstate) hstate (h.guard hctx)

end Lockstep

/-! ## §2. Tasks in lockstep. -/

namespace Task

/-- Started in related states, two tasks run in lockstep. -/
def Twin (R : σ → σ → Prop) (V : α → β → Prop) (x : Task σ α) (y : Task σ β) : Prop :=
  ∀ s t, R s t → Lockstep R V (x s) (y t)

namespace Twin

variable {R : σ → σ → Prop} {V : α → β → Prop} {W : γ → δ → Prop}
variable {x : Task σ α} {y : Task σ β}

theorem pure {a : α} {b : β} (h : V a b) : Twin R V (Pure.pure a) (Pure.pure b) :=
  fun _ _ hst => .done h hst

theorem bind {f : α → Task σ γ} {g : β → Task σ δ} (h : Twin R V x y)
    (hgo : ∀ a b, V a b → Twin R W (f a) (g b)) : Twin R W (x >>= f) (y >>= g) :=
  fun s t hst => (h s t hst).bind fun a b s t hab hst => hgo a b hab s t hst

/-- A sequence of which both runs begin with the same value. -/
theorem andThen {x y : Task σ α} {f : α → Task σ γ} {g : α → Task σ δ} (h : Twin R Eq x y)
    (hgo : ∀ a, Twin R W (f a) (g a)) : Twin R W (x >>= f) (y >>= g) :=
  h.bind fun a _ hab => hab ▸ hgo a

theorem modify {f g : σ → σ} (h : ∀ s t, R s t → R (f s) (g t)) :
    Twin R Eq (Task.modify f) (Task.modify g) := fun s t hst => .done rfl (h s t hst)

theorem get : Twin R R Task.get Task.get := fun _ _ hst => .done hst hst

theorem pause : Twin R Eq Task.pause Task.pause :=
  fun _ _ hst => .paused hst fun _ _ hst => .done rfl hst

theorem hang : Twin R V (Task.hang : Task σ α) (Task.hang : Task σ β) := fun _ _ hst => .never hst

theorem run [HasTokens σ] {ctx : Context}
    (hctx : ∀ s t, R s t → ctx.isCancelled s = ctx.isCancelled t) (h : Twin R V x y) :
    Twin R (SameOutcome V) (ctx.run x) (ctx.run y) :=
  fun s t hst => (h s t hst).run hctx hst

end Twin

end Task

end ConnectionRelay
