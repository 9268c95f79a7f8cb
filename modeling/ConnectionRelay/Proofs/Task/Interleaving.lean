/-
  ConnectionRelay.Proofs.Task.Interleaving
  ────────────────────────────────────────
  **TASKS SIDE BY SIDE.**

  Any number of tasks share one state and take turns: a turn resumes one suspended task
  in the state there is, and lasts until the task is suspended again or ends.  A task may
  be lost with what its turn has done.  Between turns, others may change the state.  A run
  keeps a history of its turns.  Main statement: what every turn keeps and every change by
  others keeps holds in every run (`Run.keeps`), where the stage of a task is spoken of
  with the task's own turns only.
-/
import ConnectionRelay.Task

namespace ConnectionRelay

variable {ι σ α : Type}

/-! ## §1. Turns. -/

namespace Progress

/-- The progress that a suspended task makes when it is resumed in a state; a task that
has ended or is not released there makes none. -/
def resume? : Progress σ α → σ → Option (Progress σ α)
  | .paused _ resume, s => some (resume s)
  | .waiting _ released resume, s => if released s then some (resume s) else none
  | _, _ => none

/-- What becomes of a task after a turn. -/
inductive Survives (p : Progress σ α) : Progress σ α → Prop where
  /-- It goes on as its turn has left it. -/
  | whole : Survives p p
  /-- It is lost, and what it did stays done. -/
  | lost : Survives p (.never p.state)

end Progress

/-- One turn of a task: the state it found and the state it left. -/
structure Turn (ι σ : Type) where
  task : ι
  before : σ
  after : σ

/-- Tasks that share a state. -/
structure SideBySide (ι σ α : Type) where
  state : σ
  tasks : ι → Progress σ α

variable [DecidableEq ι]

/-- Replace the state, and the progress of one task. -/
def SideBySide.update (now : SideBySide ι σ α) (s : σ) (i : ι) (p : Progress σ α) :
    SideBySide ι σ α :=
  ⟨s, fun j => if j = i then p else now.tasks j⟩

/-- The turns of one task. -/
def turnsOf (i : ι) (turns : List (Turn ι σ)) : List (Turn ι σ) :=
  turns.filter fun t => t.task = i

theorem turnsOf_concat_self (i : ι) (turns : List (Turn ι σ)) (s s' : σ) :
    turnsOf i (turns ++ [⟨i, s, s'⟩]) = turnsOf i turns ++ [⟨i, s, s'⟩] := by
  simp [turnsOf]

theorem turnsOf_concat_ne {i j : ι} (h : j ≠ i) (turns : List (Turn ι σ)) (s s' : σ) :
    turnsOf j (turns ++ [⟨i, s, s'⟩]) = turnsOf j turns := by
  have hne : ¬ i = j := fun e => h e.symm
  simp [turnsOf, hne]

/-! ## §2. Runs. -/

/-- The runs from a start, each with its history and with where it has come to; others
may change the state in a given way. -/
inductive Run (others : σ → σ → Prop) (start : SideBySide ι σ α) :
    List (Turn ι σ) → SideBySide ι σ α → Prop where
  | start : Run others start [] start
  | turn {turns : List (Turn ι σ)} {now : SideBySide ι σ α} {i : ι} {p q : Progress σ α}
      (hrun : Run others start turns now) (hresumes : (now.tasks i).resume? now.state = some p)
      (hsurvives : p.Survives q) :
      Run others start (turns ++ [⟨i, now.state, p.state⟩]) (now.update p.state i q)
  | others {turns : List (Turn ι σ)} {now : SideBySide ι σ α} {s : σ}
      (hrun : Run others start turns now) (hchange : others now.state s) :
      Run others start turns { now with state := s }

/-- Give the tasks of a list one turn each, one after the other; a task that cannot be
resumed when it has its turn is passed over. -/
def SideBySide.schedule :
    List ι → List (Turn ι σ) × SideBySide ι σ α → List (Turn ι σ) × SideBySide ι σ α
  | [], r => r
  | i :: is, (turns, now) =>
      match (now.tasks i).resume? now.state with
      | some p => schedule is (turns ++ [⟨i, now.state, p.state⟩], now.update p.state i p)
      | none => schedule is (turns, now)

/-- A schedule makes a run. -/
theorem Run.schedule {others : σ → σ → Prop} {start now : SideBySide ι σ α}
    {turns : List (Turn ι σ)} (hrun : Run others start turns now) (is : List ι) :
    Run others start (SideBySide.schedule is (turns, now)).1
      (SideBySide.schedule is (turns, now)).2 := by
  induction is generalizing turns now with
  | nil => exact hrun
  | cons i is ih =>
      unfold SideBySide.schedule
      cases hresumes : (now.tasks i).resume? now.state with
      | none => exact ih hrun
      | some p => exact ih (.turn hrun hresumes .whole)

/-- **What every turn keeps holds in every run.**  Something is kept about the history and
the state, and something about each task: its stage.  A turn has to keep the one and move
the stage of its task, and what it does to the state must be such that the other tasks
stay at their stages. -/
theorem Run.keeps {others : σ → σ → Prop} {start : SideBySide ι σ α}
    (kept : List (Turn ι σ) → σ → Prop) (later : σ → σ → Prop)
    (stage : ι → List (Turn ι σ) → σ → Progress σ α → Prop)
    (hstart : kept [] start.state ∧ ∀ i, stage i [] start.state (start.tasks i))
    (hstable : ∀ i own s s' p, stage i own s p → later s s' → stage i own s' p)
    (hturn : ∀ turns i own s p p' q, kept turns s → stage i own s p → p.resume? s = some p' →
      p'.Survives q → kept (turns ++ [⟨i, s, p'.state⟩]) p'.state ∧ later s p'.state
        ∧ stage i (own ++ [⟨i, s, p'.state⟩]) p'.state q)
    (hothers : ∀ turns s s', kept turns s → others s s' → kept turns s' ∧ later s s')
    {turns : List (Turn ι σ)} {now : SideBySide ι σ α} (hrun : Run others start turns now) :
    kept turns now.state ∧ ∀ i, stage i (turnsOf i turns) now.state (now.tasks i) := by
  -- on the run, one turn or one change by others at its end
  induction hrun with
  | start => exact hstart
  | @turn turns now i p q hrun hresumes hsurvives ih =>
      obtain ⟨hkept, hstages⟩ := ih
      obtain ⟨hkept', hlater, hstage⟩ :=
        hturn turns i _ _ _ _ _ hkept (hstages i) hresumes hsurvives
      refine ⟨hkept', fun j => ?_⟩
      by_cases hj : j = i
      · subst hj
        rw [turnsOf_concat_self]
        simpa [SideBySide.update] using hstage
      · rw [turnsOf_concat_ne hj]
        have hstay := hstable j _ _ _ _ (hstages j) hlater
        simpa [SideBySide.update, hj] using hstay
  | @others turns now s hrun hchange ih =>
      obtain ⟨hkept, hstages⟩ := ih
      obtain ⟨hkept', hlater⟩ := hothers _ _ _ hkept hchange
      exact ⟨hkept', fun j => hstable j _ _ _ _ (hstages j) hlater⟩

end ConnectionRelay
