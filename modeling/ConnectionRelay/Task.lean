/-
  ConnectionRelay.Task
  ────────────────────
  **OPERATIONS THAT CAN BE SUSPENDED.**

  A task takes a state and makes progress: it finishes, it pauses and can be resumed
  in whatever state it finds then, it waits for a state that lets it go on, or it never
  goes on.  Between a pause and the resumption anything may happen to the state, so two
  tasks run side by side by resuming now one and now the other (`Progress.finish` is the
  case where nothing else runs).  Main statements: tasks form a lawful monad, and a
  sequence finishes as its parts finish, one after the other (`finish_bind`).
-/

namespace ConnectionRelay

/-! ## §1. Progress. -/

/-- How far a task has come. -/
inductive Progress (σ α : Type) where
  /-- Finished, with a value. -/
  | done (value : α) (state : σ)
  /-- Suspended, to be resumed in a later state. -/
  | paused (state : σ) (resume : σ → Progress σ α)
  /-- Suspended, to be resumed in the first later state that passes a test. -/
  | waiting (state : σ) (released : σ → Bool) (resume : σ → Progress σ α)
  /-- Suspended for ever. -/
  | never (state : σ)

namespace Progress

variable {σ τ α β γ : Type}

/-- Go on with the value once it is there. -/
def bind : Progress σ α → (α → σ → Progress σ β) → Progress σ β
  | .done a s, f => f a s
  | .paused s resume, f => .paused s fun s' => (resume s').bind f
  | .waiting s released resume, f => .waiting s released fun s' => (resume s').bind f
  | .never s, _ => .never s

/-- Run to the end with nothing else going on; `none` if the end never comes. -/
def finish : Progress σ α → Option (α × σ)
  | .done a s => some (a, s)
  | .paused s resume => (resume s).finish
  | .waiting s released resume => if released s then (resume s).finish else none
  | .never _ => none

/-- The state as the task left it. -/
def state : Progress σ α → σ
  | .done _ s => s
  | .paused s _ => s
  | .waiting s _ _ => s
  | .never s => s

/-- Let a task work on the first part of a larger state. -/
def widen (t : τ) : Progress σ α → Progress (σ × τ) α
  | .done a s => .done a (s, t)
  | .paused s resume => .paused (s, t) fun st => (resume st.1).widen st.2
  | .waiting s released resume =>
      .waiting (s, t) (fun st => released st.1) fun st => (resume st.1).widen st.2
  | .never s => .never (s, t)

theorem bind_done (p : Progress σ α) : p.bind .done = p := by
  induction p with
  | done a s => rfl
  | paused s resume ih => simp [bind, ih]
  | waiting s released resume ih => simp [bind, ih]
  | never s => rfl

theorem bind_assoc (p : Progress σ α) (f : α → σ → Progress σ β)
    (g : β → σ → Progress σ γ) :
    (p.bind f).bind g = p.bind fun a s => (f a s).bind g := by
  induction p with
  | done a s => rfl
  | paused s resume ih => simp [bind, ih]
  | waiting s released resume ih => simp [bind, ih]
  | never s => rfl

/-- A sequence finishes as its parts finish. -/
theorem finish_bind (p : Progress σ α) (f : α → σ → Progress σ β) :
    (p.bind f).finish = p.finish.bind fun as => (f as.1 as.2).finish := by
  induction p with
  | done a s => rfl
  | paused s resume ih => simp [bind, finish, ih]
  | waiting s released resume ih => by_cases h : released s <;> simp [bind, finish, ih, h]
  | never s => rfl

end Progress

/-! ## §2. Tasks. -/

/-- An operation on a state that can be suspended. -/
def Task (σ α : Type) : Type := σ → Progress σ α

namespace Task

variable {σ τ α β : Type}

instance : Monad (Task σ) where
  pure a := fun s => .done a s
  bind t f := fun s => (t s).bind f

@[ext] theorem ext {t u : Task σ α} (h : ∀ s, t s = u s) : t = u := funext h

@[simp] theorem pure_apply (a : α) (s : σ) : (pure a : Task σ α) s = .done a s := rfl

@[simp] theorem bind_apply (t : Task σ α) (f : α → Task σ β) (s : σ) :
    (t >>= f) s = (t s).bind f := rfl

theorem bind_bind {γ : Type} (t : Task σ α) (f : α → Task σ β) (go : β → σ → Progress σ γ)
    (s : σ) : ((t >>= f) s).bind go = (t s).bind fun a s => (f a s).bind go :=
  Progress.bind_assoc (t s) f go

/-- A sequence of tasks finishes as its parts finish. -/
theorem finish_bind (t : Task σ α) (f : α → Task σ β) (s : σ) :
    ((t >>= f) s).finish = (t s).finish.bind fun as => (f as.1 as.2).finish :=
  Progress.finish_bind (t s) f

instance : LawfulMonad (Task σ) :=
  LawfulMonad.mk' (Task σ)
    (fun t => funext fun s => Progress.bind_done (t s))
    (fun _ _ => rfl)
    (fun t f g => funext fun s => Progress.bind_assoc (t s) f g)

/-- The current state. -/
def get : Task σ σ := fun s => .done s s

/-- Change the state. -/
def modify (f : σ → σ) : Task σ Unit := fun s => .done () (f s)

/-- Be suspended once. -/
def pause : Task σ Unit := fun s => .paused s fun s' => .done () s'

/-- Be suspended several times. -/
def pauses : Nat → Task σ Unit
  | 0 => pure ()
  | n + 1 => do
      pause
      pauses n

/-- Be suspended for ever. -/
def hang : Task σ α := fun s => .never s

/-- Work on the first part of a larger state. -/
def onFirst (t : Task σ α) : Task (σ × τ) α := fun st => (t st.1).widen st.2

end Task

end ConnectionRelay
