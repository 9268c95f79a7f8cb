/-
  ConnectionRelay.Proofs.Task.Sparing
  ───────────────────────────────────
  **WHAT A TASK LEAVES ALONE.**

  A task spares a part of the state if it leaves that part in each of its turns as it found
  it, whatever others do to it between the turns.  Some tasks change the part just when they
  succeed, in their last turn; these spare it unless they end with certain values.  Main
  statements:

    • `Spares.spared` — in no turn of a task that has ended was the part changed,
    • `Spares.bind` — a sequence spares what its parts spare,
    • `SparesUnless.run` — and so does a task that is driven under a context.
-/
import ConnectionRelay.Context
import ConnectionRelay.Proofs.Task.Ending

namespace ConnectionRelay

variable {σ τ υ α β : Type}

/-! ## §1. Progress that spares a part of the state. -/

/-- In none of these turns was a part of the state changed. -/
def Spared (part : σ → τ) (turns : List (σ × σ)) : Prop := ∀ turn ∈ turns, part turn.2 = part turn.1

namespace Progress

/-- A task that was started in a state leaves a part of it in each turn as it found it, except
where it ends with one of certain values. -/
inductive SparesUnless (part : σ → τ) (except : α → Prop) : σ → Progress σ α → Prop where
  | done {a : α} {s s' : σ} (h : ¬ except a → part s' = part s) :
      SparesUnless part except s (.done a s')
  | paused {s left : σ} {resume : σ → Progress σ α} (h : part left = part s)
      (hresume : ∀ found, SparesUnless part except found (resume found)) :
      SparesUnless part except s (.paused left resume)
  | waiting {s left : σ} {released : σ → Bool} {resume : σ → Progress σ α}
      (h : part left = part s) (hresume : ∀ found, SparesUnless part except found (resume found)) :
      SparesUnless part except s (.waiting left released resume)
  | never {s left : σ} (h : part left = part s) : SparesUnless part except s (.never left)

namespace SparesUnless

variable {part : σ → τ} {except except' : α → Prop} {p : Progress σ α} {s t : σ}

/-- It does not matter in which of two states with the same part the turn began. -/
theorem congr (h : SparesUnless part except s p) (hpart : part s = part t) :
    SparesUnless part except t p := by
  cases h with
  | done h => exact .done fun ha => (h ha).trans hpart
  | paused h hresume => exact .paused (h.trans hpart) hresume
  | waiting h hresume => exact .waiting (h.trans hpart) hresume
  | never h => exact .never (h.trans hpart)

theorem mono (h : SparesUnless part except s p) (hexcept : ∀ a, except a → except' a) :
    SparesUnless part except' s p := by
  induction h with
  | done h => exact .done fun ha => h fun hexcepted => ha (hexcept _ hexcepted)
  | paused h _ ih => exact .paused h ih
  | waiting h _ ih => exact .waiting h ih
  | never h => exact .never h

/-- Who spares a part spares what can be told of it. -/
theorem comp (h : SparesUnless part except s p) (f : τ → υ) :
    SparesUnless (fun s => f (part s)) except s p := by
  induction h with
  | done h => exact .done fun ha => congrArg f (h ha)
  | paused h _ ih => exact .paused (congrArg f h) ih
  | waiting h _ ih => exact .waiting (congrArg f h) ih
  | never h => exact .never (congrArg f h)

theorem bind {except : β → Prop} {f : α → σ → Progress σ β}
    (h : SparesUnless part (fun _ => False) s p)
    (hgo : ∀ a s, SparesUnless part except s (f a s)) :
    SparesUnless part except s (p.bind f) := by
  -- on the first part; its last turn is also the first one of what follows it
  induction h with
  | done h => exact (hgo _ _).congr (h not_false)
  | paused h _ ih => exact .paused h ih
  | waiting h _ ih => exact .waiting h ih
  | never h => exact .never h

theorem widen (h : SparesUnless part except s p) (t : υ) :
    SparesUnless (fun st : σ × υ => part st.1) except (s, t) (p.widen t) := by
  induction h generalizing t with
  | done h => exact .done h
  | paused h _ ih => exact .paused h fun st => ih st.1 st.2
  | waiting h _ ih => exact .waiting h fun st => ih st.1 st.2
  | never h => exact .never h

theorem guard [HasTokens σ] {ctx : Context} (h : SparesUnless part except s p) :
    SparesUnless part (fun r : Except ConnectionError α => ∃ a, r = .ok a ∧ except a) s
      (ctx.guard p) := by
  -- a task that is given up changes nothing in that turn
  have hstop : ∀ {s} {q : Progress σ (Except ConnectionError α)},
      SparesUnless part (fun r => ∃ a, r = .ok a ∧ except a) s q →
      SparesUnless part (fun r => ∃ a, r = .ok a ∧ except a) s
        (if ctx.isCancelled s then .done (.error .cancelled) s else q) := by
    intro s q hq
    by_cases hctx : ctx.isCancelled s = true
    · rw [if_pos hctx]
      exact .done fun _ => rfl
    · rw [if_neg hctx]
      exact hq
  induction h with
  | done h => exact .done fun ha => h fun hexcept => ha ⟨_, rfl, hexcept⟩
  | paused h _ ih => exact .paused h fun found => hstop (ih found)
  | waiting h _ ih => exact .waiting h fun found => hstop (ih found)
  | never h => exact .waiting h fun found => .done fun _ => rfl

/-- **In no turn was the part changed**, unless the task has ended with one of the values that
are excepted. -/
theorem spared {changes : List (σ × σ)} {a : α} {s' : σ} (h : SparesUnless part except s p)
    (hends : p.Ends changes a s') (ha : ¬ except a) : Spared part (turns s changes s') := by
  induction hends generalizing s with
  | done a s' =>
      cases h with
      | done h => exact List.forall_mem_singleton.2 (h ha)
  | paused _ ih =>
      cases h with
      | paused h hresume => exact List.forall_mem_cons.2 ⟨h, ih (hresume _) ha⟩
  | waiting _ _ ih =>
      cases h with
      | waiting h hresume => exact List.forall_mem_cons.2 ⟨h, ih (hresume _) ha⟩

end SparesUnless

end Progress

/-! ## §2. Turns in which a part of the state is spared. -/

namespace Spared

variable {part : σ → τ} {start stop stop' : σ} {changes changes' : List (σ × σ)}

/-- Turns that follow one another: the last one of the first is continued by the first one of
the others. -/
theorem append (h : Spared part (Progress.turns start changes stop))
    (h' : Spared part (Progress.turns stop changes' stop')) :
    Spared part (Progress.turns start (changes ++ changes') stop') := by
  induction changes generalizing start with
  | nil =>
      have hspared : part stop = part start := h (start, stop) (List.mem_singleton_self _)
      exact Progress.forall_turns_congr part (fun before after => after = before) hspared.symm
        rfl h'
  | cons change rest ih =>
      obtain ⟨left, found⟩ := change
      obtain ⟨hfirst, hrest⟩ := List.forall_mem_cons.1 h
      exact List.forall_mem_cons.2 ⟨hfirst, ih hrest⟩

/-- Turns whose ends are exchanged for others with the same part. -/
theorem congr {start' : σ} (h : Spared part (Progress.turns start changes stop))
    (hstart : part start' = part start) (hstop : part stop' = part stop) :
    Spared part (Progress.turns start' changes stop') :=
  Progress.forall_turns_congr part (fun before after => after = before) hstart hstop h

/-- If others have left the part alone as well, it is what it was. -/
theorem eq (h : Spared part (Progress.turns start changes stop))
    (halone : ∀ change ∈ changes, part change.2 = part change.1) : part stop = part start := by
  induction changes generalizing start with
  | nil => exact h (start, stop) (List.mem_singleton_self _)
  | cons change rest ih =>
      obtain ⟨left, found⟩ := change
      obtain ⟨hfirst, hrest⟩ := List.forall_mem_cons.1 h
      obtain ⟨hchange, halone⟩ := List.forall_mem_cons.1 halone
      calc part stop = part found := ih hrest halone
        _ = part left := hchange
        _ = part start := hfirst

end Spared

/-! ## §3. Tasks that spare a part of the state. -/

namespace Task

/-- Wherever it is started, a task spares a part of the state, except where it ends with one of
certain values. -/
def SparesUnless (part : σ → τ) (except : α → Prop) (t : Task σ α) : Prop :=
  ∀ s, Progress.SparesUnless part except s (t s)

/-- Wherever it is started, a task spares a part of the state. -/
def Spares (part : σ → τ) (t : Task σ α) : Prop := t.SparesUnless part fun _ => False

variable {part : σ → τ} {t : Task σ α}

theorem SparesUnless.run [HasTokens σ] {except : α → Prop} (h : t.SparesUnless part except)
    (ctx : Context) :
    (ctx.run t).SparesUnless part fun r => ∃ a, r = .ok a ∧ except a := by
  intro s
  unfold Context.run
  by_cases hctx : ctx.isCancelled s = true
  · rw [if_pos hctx]
    exact .done fun _ => rfl
  · rw [if_neg hctx]
    exact (h s).guard

namespace Spares

theorem toUnless (h : t.Spares part) (except : α → Prop) : t.SparesUnless part except :=
  fun s => (h s).mono fun _ => False.elim

theorem pure (a : α) : (Pure.pure a : Task σ α).Spares part := fun _ => .done fun _ => rfl

theorem bind {f : α → Task σ β} (h : t.Spares part) (hgo : ∀ a, (f a).Spares part) :
    (t >>= f).Spares part := fun s => (h s).bind fun a s => hgo a s

theorem modify {f : σ → σ} (h : ∀ s, part (f s) = part s) : (modify f).Spares part :=
  fun s => .done fun _ => h s

theorem get : (get : Task σ σ).Spares part := fun _ => .done fun _ => rfl

theorem pause : (pause : Task σ Unit).Spares part :=
  fun _ => .paused rfl fun _ => .done fun _ => rfl

theorem hang : (hang : Task σ α).Spares part := fun _ => .never rfl

theorem comp (h : t.Spares part) (f : τ → υ) : t.Spares fun s => f (part s) :=
  fun s => (h s).comp f

theorem onFirst (h : t.Spares part) :
    (onFirst t : Task (σ × υ) α).Spares fun st => part st.1 := fun st => (h st.1).widen st.2

variable [HasTokens σ] (ctx : Context)

theorem ensureActive : (ctx.ensureActive : Task σ _).Spares part := fun _ => .done fun _ => rfl

theorem run (h : t.Spares part) : (ctx.run t).Spares part :=
  fun s => (SparesUnless.run h ctx s).mono fun _ ⟨_, _, hfalse⟩ => hfalse

end Spares

end Task

end ConnectionRelay
