/-
  ConnectionRelay.Context
  ───────────────────────
  **CANCELLATION.**

  Every operation is given a context.  A context has a token, and is cancelled once
  its own token or that of a context it was derived from has fired; so cancelling a
  parent cancels its children, and not the other way round.  `Context.run` drives a
  task under a context: it looks at the cancellation before the task starts and each
  time the task is resumed, and gives the task up once the context is cancelled.
-/
import ConnectionRelay.Error
import ConnectionRelay.Task

namespace ConnectionRelay

/-! ## §1. Contexts. -/

/-- What fires when a context is cancelled. -/
abbrev Token := Nat

/-- The context of an operation: its own token, then those of its ancestors. -/
structure Context where
  lineage : List Token
  deriving DecidableEq, Repr

/-- States that know which tokens have fired. -/
class HasTokens (σ : Type) where
  fired : σ → List Token

instance {σ τ : Type} [HasTokens σ] : HasTokens (σ × τ) := ⟨fun st => HasTokens.fired st.1⟩

namespace Context

variable {σ α : Type} [HasTokens σ]

/-- Is the context cancelled? -/
def isCancelled (ctx : Context) (s : σ) : Bool :=
  ctx.lineage.any fun t => (HasTokens.fired s).contains t

/-- A context is as active as the tokens that have fired make it. -/
theorem isCancelled_congr {s s' : σ} (h : HasTokens.fired s' = HasTokens.fired s)
    (ctx : Context) : ctx.isCancelled s' = ctx.isCancelled s := by
  unfold isCancelled
  rw [h]

/-- A context that is cancelled together with this one, but can be cancelled alone. -/
def derive (ctx : Context) (token : Token) : Context := ⟨token :: ctx.lineage⟩

/-- The token that cancels the context. -/
def token? (ctx : Context) : Option Token := ctx.lineage.head?

/-! ## §2. Running under a context. -/

/-- Fail if the context is cancelled. -/
def ensureActive (ctx : Context) : Task σ (Except ConnectionError Unit) := fun s =>
  .done (if ctx.isCancelled s then .error .cancelled else .ok ()) s

/-- Give a started task up at the first resumption that finds the context cancelled. -/
def guard (ctx : Context) : Progress σ α → Progress σ (Except ConnectionError α)
  | .done a s => .done (.ok a) s
  | .paused s resume => .paused s fun s' =>
      if ctx.isCancelled s' then .done (.error .cancelled) s' else ctx.guard (resume s')
  | .waiting s released resume =>
      .waiting s (fun s' => ctx.isCancelled s' || released s') fun s' =>
        if ctx.isCancelled s' then .done (.error .cancelled) s' else ctx.guard (resume s')
  | .never s => .waiting s ctx.isCancelled fun s' => .done (.error .cancelled) s'

/-- Drive a task unless the context is cancelled first. -/
def run (ctx : Context) (t : Task σ α) : Task σ (Except ConnectionError α) := fun s =>
  if ctx.isCancelled s then .done (.error .cancelled) s else ctx.guard (t s)

theorem run_of_isCancelled {ctx : Context} {s : σ} (h : ctx.isCancelled s = true)
    (t : Task σ α) : ctx.run t s = .done (.error .cancelled) s := by
  simp [run, h]

theorem run_of_active {ctx : Context} {s : σ} (h : ctx.isCancelled s = false)
    (t : Task σ α) : ctx.run t s = ctx.guard (t s) := by
  simp [run, h]

theorem ensureActive_of_active {ctx : Context} {s : σ} (h : ctx.isCancelled s = false) :
    ctx.ensureActive s = .done (.ok ()) s := by
  simp [ensureActive, h]

end Context

end ConnectionRelay
