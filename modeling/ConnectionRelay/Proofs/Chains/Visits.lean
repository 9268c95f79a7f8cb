/-
  ConnectionRelay.Proofs.Chains.Visits
  ────────────────────────────────────
  **WHICH LEAVES A NEST CALLS.**

  A nest that has ended has called some of its leaves, one after the other.  A `Visit` is
  the record of one such call, and `Nest.Runs` says which visits a nest makes and what it
  returns for them.  Between two visits a nest leaves the state alone, so the visits follow
  one another without a gap.  Main statements:

    • `Nest.ends_task_iff` — a nest ends exactly as one of its runs does,
    • `Nest.Runs.account` — what every run keeps to: its visits follow one another, its
      result gathers what they brought, and its error is that of its last visit, or that of
      the cancelled context.
-/
import ConnectionRelay.Proofs.Chains.Nesting
import ConnectionRelay.Proofs.Task.Ending

namespace ConnectionRelay

/-! ## §1. Visits. -/

/-- A call of a leaf that has ended. -/
structure Visit (κ σ : Type) where
  /-- What was called, and how it went. -/
  step : κ
  before : σ
  /-- What others did while the call was suspended. -/
  changes : List (σ × σ)
  after : σ

/-- Visits follow one another: each begins in the state in which the one before it ended. -/
inductive Trail {κ σ : Type} : σ → List (Visit κ σ) → σ → Prop where
  | nil (s : σ) : Trail s [] s
  | cons {step : κ} {s t s' : σ} {changes : List (σ × σ)} {visits : List (Visit κ σ)}
      (h : Trail t visits s') : Trail s (⟨step, s, changes, t⟩ :: visits) s'

theorem Trail.append {κ σ : Type} {visits visits' : List (Visit κ σ)} {s t s' : σ}
    (h : Trail s visits t) (h' : Trail t visits' s') : Trail s (visits ++ visits') s' := by
  induction h with
  | nil s => exact h'
  | cons _ ih => exact .cons (ih h')

/-- How leaves are called, and what can be told of a call that has ended. -/
structure Calling (ι κ σ ρ : Type) where
  act : ι → Task σ ρ
  /-- What a call has returned. -/
  returned : κ → ρ
  /-- This is the record of a call of the leaf. -/
  Ran : ι → Visit κ σ → Prop
  ends_iff : ∀ leaf s changes r s', (act leaf s).Ends changes r s'
    ↔ ∃ step, Ran leaf ⟨step, s, changes, s'⟩ ∧ r = returned step

/-- What visits have brought, one after the other. -/
def Gathering.sum {κ σ ρ μ : Type} (g : Gathering ρ μ) (returned : κ → ρ) :
    List (Visit κ σ) → μ
  | [] => g.nothing
  | visit :: rest => g.add (g.brings (returned visit.step)) (g.sum returned rest)

theorem Gathering.sum_append {κ σ ρ μ : Type} (g : Gathering ρ μ) (returned : κ → ρ)
    (visits visits' : List (Visit κ σ)) :
    g.sum returned (visits ++ visits')
      = g.add (g.sum returned visits) (g.sum returned visits') := by
  induction visits with
  | nil => exact (g.nothing_add _).symm
  | cons visit rest ih => rw [List.cons_append, sum, sum, ih, g.add_assoc]

/-! ## §2. Runs. -/

namespace Nest

variable {ι κ σ ρ μ : Type} [HasTokens σ]

section

variable (c : Calling ι κ σ ρ) (g : Gathering ρ μ) (ctx : Context)

mutual

/-- A nest is started in a state, makes some visits, and returns a result in another. -/
inductive Runs : Nest ι → σ → List (Visit κ σ) → ρ → σ → Prop where
  | leaf {item : ι} {step : κ} {s s' : σ} {changes : List (σ × σ)}
      (hran : c.Ran item ⟨step, s, changes, s'⟩) :
      Runs (.leaf item) s [⟨step, s, changes, s'⟩] (c.returned step) s'
  | chain {parts : List (Nest ι)} {s s' : σ} {visits : List (Visit κ σ)} {r : ρ}
      (hparts : RunsFrom g.nothing parts s visits r s') : Runs (.chain parts) s visits r s'

/-- A chain goes through its parts, with something gathered already. -/
inductive RunsFrom : μ → List (Nest ι) → σ → List (Visit κ σ) → ρ → σ → Prop where
  | nil (gathered : μ) (s : σ) : RunsFrom gathered [] s [] (g.result none gathered) s
  | cancelled {gathered : μ} {part : Nest ι} {rest : List (Nest ι)} {s : σ}
      (hctx : ctx.isCancelled s = true) :
      RunsFrom gathered (part :: rest) s [] (g.result (some .cancelled) gathered) s
  /-- The part ends the chain with an error. -/
  | failed {gathered : μ} {part : Nest ι} {rest : List (Nest ι)} {s s' : σ}
      {visits : List (Visit κ σ)} {r : ρ} {e : ConnectionError} (hctx : ctx.isCancelled s = false)
      (hpart : Runs part s visits r s') (herror : g.error? r = some e) :
      RunsFrom gathered (part :: rest) s visits (g.onTop gathered r) s'
  | next {gathered : μ} {part : Nest ι} {rest : List (Nest ι)} {s t s' : σ}
      {visits visits' : List (Visit κ σ)} {r r' : ρ} (hctx : ctx.isCancelled s = false)
      (hpart : Runs part s visits r t) (hok : g.error? r = none)
      (hrest : RunsFrom (g.add gathered (g.brings r)) rest t visits' r' s') :
      RunsFrom gathered (part :: rest) s (visits ++ visits') r' s'

end

end

variable {c : Calling ι κ σ ρ} {g : Gathering ρ μ} {ctx : Context}

/-- After a part has returned, a chain ends with its error or goes on. -/
def RunsOn (c : Calling ι κ σ ρ) (g : Gathering ρ μ) (ctx : Context) (r : ρ)
    (rest : List (Nest ι)) (s : σ) (visits : List (Visit κ σ)) (r' : ρ) (s' : σ) : Prop :=
  match g.error? r with
  | some _ => visits = [] ∧ r' = r ∧ s' = s
  | none => RunsFrom c g ctx (g.brings r) rest s visits r' s'

theorem runs_leaf_iff {item : ι} {s s' : σ} {visits : List (Visit κ σ)} {r : ρ} :
    Runs c g ctx (.leaf item) s visits r s' ↔
      ∃ step changes, visits = [⟨step, s, changes, s'⟩]
        ∧ c.Ran item ⟨step, s, changes, s'⟩ ∧ r = c.returned step := by
  constructor
  · intro h
    cases h with
    | leaf hran => exact ⟨_, _, rfl, hran, rfl⟩
  · rintro ⟨step, changes, rfl, hran, rfl⟩
    exact .leaf hran

theorem runs_chain_iff {parts : List (Nest ι)} {s s' : σ} {visits : List (Visit κ σ)} {r : ρ} :
    Runs c g ctx (.chain parts) s visits r s'
      ↔ RunsFrom c g ctx g.nothing parts s visits r s' := by
  constructor
  · intro h
    cases h with
    | chain hparts => exact hparts
  · exact .chain

theorem runsFrom_nil_iff {gathered : μ} {s s' : σ} {visits : List (Visit κ σ)} {r : ρ} :
    RunsFrom c g ctx gathered [] s visits r s'
      ↔ visits = [] ∧ r = g.result none gathered ∧ s' = s := by
  constructor
  · intro h
    cases h with
    | nil => exact ⟨rfl, rfl, rfl⟩
  · rintro ⟨rfl, rfl, rfl⟩
    exact .nil gathered _

theorem runsFrom_cancelled_iff {gathered : μ} {part : Nest ι} {rest : List (Nest ι)} {s s' : σ}
    {visits : List (Visit κ σ)} {r : ρ} (hctx : ctx.isCancelled s = true) :
    RunsFrom c g ctx gathered (part :: rest) s visits r s'
      ↔ visits = [] ∧ r = g.result (some .cancelled) gathered ∧ s' = s := by
  constructor
  · intro h
    cases h with
    | cancelled => exact ⟨rfl, rfl, rfl⟩
    | failed hactive => exact absurd hctx (by rw [hactive]; decide)
    | next hactive => exact absurd hctx (by rw [hactive]; decide)
  · rintro ⟨rfl, rfl, rfl⟩
    exact .cancelled hctx

theorem runsFrom_cons_iff {gathered : μ} {part : Nest ι} {rest : List (Nest ι)} {s s' : σ}
    {visits : List (Visit κ σ)} {r : ρ} (hctx : ctx.isCancelled s = false) :
    RunsFrom c g ctx gathered (part :: rest) s visits r s' ↔
      ∃ first later r₁ t, visits = first ++ later ∧ Runs c g ctx part s first r₁ t
        ∧ RunsOn c g ctx (g.onTop gathered r₁) rest t later r s' := by
  unfold RunsOn
  constructor
  · intro h
    cases h with
    | cancelled hcancelled => exact absurd hcancelled (by rw [hctx]; decide)
    | failed _ hpart herror =>
        refine ⟨visits, [], _, s', (List.append_nil _).symm, hpart, ?_⟩
        rw [g.error?_onTop, herror]
        exact ⟨rfl, rfl, rfl⟩
    | next _ hpart hok hrest =>
        refine ⟨_, _, _, _, rfl, hpart, ?_⟩
        rw [g.error?_onTop, hok]
        simpa only [g.brings_onTop] using hrest
  · rintro ⟨first, later, r₁, t, rfl, hpart, hon⟩
    cases herror : g.error? r₁ with
    | none =>
        rw [g.error?_onTop, herror] at hon
        exact .next hctx hpart herror (by simpa only [g.brings_onTop] using hon)
    | some e =>
        rw [g.error?_onTop, herror] at hon
        obtain ⟨rfl, rfl, rfl⟩ := hon
        rw [List.append_nil]
        exact .failed hctx hpart herror

/-! ## §3. Every nest that ends has made a run. -/

omit [HasTokens σ] in
/-- What is done at once makes no visit. -/
theorem ends_at_once_iff {x r : ρ} {s t : σ} {changes : List (σ × σ)} :
    (Progress.done x s).Ends changes r t ↔ ∃ visits : List (Visit κ σ),
      (visits = [] ∧ r = x ∧ t = s) ∧ changes = visits.flatMap Visit.changes := by
  rw [Progress.ends_done_iff]
  constructor
  · rintro ⟨rfl, rfl, rfl⟩
    exact ⟨[], ⟨rfl, rfl, rfl⟩, rfl⟩
  · rintro ⟨_, ⟨rfl, rfl, rfl⟩, rfl⟩
    exact ⟨rfl, rfl, rfl⟩

mutual

/-- **A nest ends exactly as one of its runs does.** -/
theorem ends_task_iff (nest : Nest ι) {s s' : σ} {changes : List (σ × σ)} {r : ρ} :
    (nest.task g ctx.look c.act s).Ends changes r s' ↔
      ∃ visits, Runs c g ctx nest s visits r s' ∧ changes = visits.flatMap Visit.changes := by
  cases nest with
  | leaf item =>
      rw [task, c.ends_iff]
      constructor
      · rintro ⟨step, hran, rfl⟩
        exact ⟨_, .leaf hran, (List.append_nil _).symm⟩
      · rintro ⟨visits, hruns, rfl⟩
        obtain ⟨step, changes, rfl, hran, rfl⟩ := runs_leaf_iff.1 hruns
        rw [List.flatMap_singleton]
        exact ⟨step, hran, rfl⟩
  | chain parts =>
      rw [task, Gathering.chain, ends_tasks_iff parts]
      simp only [runs_chain_iff]

/-- A chain ends exactly as one of its runs does. -/
theorem ends_tasks_iff (parts : List (Nest ι)) {gathered : μ} {s s' : σ}
    {changes : List (σ × σ)} {r : ρ} :
    (g.chainFrom ctx.look gathered (tasks g ctx.look c.act parts) s).Ends changes r s' ↔
      ∃ visits, RunsFrom c g ctx gathered parts s visits r s'
        ∧ changes = visits.flatMap Visit.changes := by
  cases parts with
  | nil =>
      simp only [runsFrom_nil_iff]
      exact ends_at_once_iff
  | cons part rest =>
      rw [tasks, g.chainFrom_apply]
      cases hctx : ctx.isCancelled s with
      | true =>
          rw [if_pos rfl]
          simp only [runsFrom_cancelled_iff hctx]
          exact ends_at_once_iff
      | false =>
          rw [if_neg Bool.false_ne_true]
          -- what others did falls apart into what they did during the part and after it
          refine Progress.ends_bind_iff.trans ?_
          simp only [runsFrom_cons_iff hctx, ends_task_iff part, ends_goOn_iff rest]
          constructor
          · rintro ⟨_, _, r₁, t, rfl, ⟨first, hpart, rfl⟩, later, hon, rfl⟩
            exact ⟨_, ⟨first, later, r₁, t, rfl, hpart, hon⟩, List.flatMap_append.symm⟩
          · rintro ⟨_, ⟨first, later, r₁, t, rfl, hpart, hon⟩, rfl⟩
            exact ⟨_, _, r₁, t, List.flatMap_append, ⟨first, hpart, rfl⟩, later, hon, rfl⟩

/-- What follows a part ends exactly as one of its runs does. -/
theorem ends_goOn_iff (rest : List (Nest ι)) {r r' : ρ} {s s' : σ} {changes : List (σ × σ)} :
    (g.goOn ctx.look (tasks g ctx.look c.act rest) r s).Ends changes r' s' ↔
      ∃ visits, RunsOn c g ctx r rest s visits r' s' ∧ changes = visits.flatMap Visit.changes := by
  unfold Gathering.goOn RunsOn
  cases g.error? r with
  | none => exact ends_tasks_iff rest
  | some e => exact ends_at_once_iff

end

/-! ## §4. What every run keeps to. -/

/-- What every run keeps to that has called some of these leaves, brought something, and
ended with an error or without. -/
structure Account (c : Calling ι κ σ ρ) (g : Gathering ρ μ) (ctx : Context) (leaves : List ι)
    (s : σ) (visits : List (Visit κ σ)) (brought : μ) (error? : Option ConnectionError)
    (s' : σ) : Prop where
  trail : Trail s visits s'
  ran : ∀ visit ∈ visits, ∃ leaf ∈ leaves, c.Ran leaf visit
  brings : brought = g.sum c.returned visits
  /-- A call that has failed has ended the run with its error. -/
  fails : ∀ visit ∈ visits, ∀ e, g.error? (c.returned visit.step) = some e → error? = some e
  /-- A run without a call that has failed was cancelled, if it has ended with an error. -/
  failed : ∀ e, error? = some e →
    (∃ visit ∈ visits, g.error? (c.returned visit.step) = some e)
      ∨ e = .cancelled ∧ ctx.isCancelled s' = true

namespace Account

variable {leaves more : List ι} {s t s' : σ} {visits visits' : List (Visit κ σ)} {m m' : μ}

/-- A run that has called nothing. -/
theorem nil {e? : Option ConnectionError}
    (h : ∀ e, e? = some e → e = .cancelled ∧ ctx.isCancelled s = true) :
    Account c g ctx leaves s [] g.nothing e? s where
  trail := .nil s
  ran := List.forall_mem_nil _
  brings := rfl
  fails := List.forall_mem_nil _
  failed e he := .inr (h e he)

theorem mono {e? : Option ConnectionError} (h : Account c g ctx leaves s visits m e? s')
    (hsub : leaves ⊆ more) : Account c g ctx more s visits m e? s' :=
  { h with
    ran := fun visit hmem => by
      obtain ⟨leaf, hleaf, hran⟩ := h.ran visit hmem
      exact ⟨leaf, hsub hleaf, hran⟩ }

/-- A run that goes on after one without an error. -/
theorem append {e? : Option ConnectionError} (h : Account c g ctx leaves s visits m none t)
    (h' : Account c g ctx leaves t visits' m' e? s') :
    Account c g ctx leaves s (visits ++ visits') (g.add m m') e? s' where
  trail := h.trail.append h'.trail
  ran := List.forall_mem_append.2 ⟨h.ran, h'.ran⟩
  brings := by rw [g.sum_append, h.brings, h'.brings]
  fails visit hmem e he := by
    rcases List.mem_append.1 hmem with hmem | hmem
    · cases h.fails visit hmem e he
    · exact h'.fails visit hmem e he
  failed e he := by
    rcases h'.failed e he with ⟨visit, hmem, herror⟩ | hcancelled
    · exact .inl ⟨visit, List.mem_append_right _ hmem, herror⟩
    · exact .inr hcancelled

end Account

mutual

/-- **What every run of a nest keeps to.** -/
theorem Runs.account {nest : Nest ι} {s s' : σ} {visits : List (Visit κ σ)} {r : ρ}
    (h : Runs c g ctx nest s visits r s') :
    Account c g ctx nest.leaves s visits (g.brings r) (g.error? r) s' := by
  cases h with
  | leaf hran =>
      exact {
        trail := .cons (.nil _)
        ran := List.forall_mem_singleton.2 ⟨_, List.mem_singleton_self _, hran⟩
        brings := (g.add_nothing _).symm
        fails := List.forall_mem_singleton.2 fun _ herror => herror
        failed := fun e herror => .inl ⟨_, List.mem_singleton_self _, herror⟩ }
  | chain hparts =>
      obtain ⟨brought, hbrings, haccount⟩ := hparts.account
      rw [hbrings, g.nothing_add]
      exact haccount

/-- What every run of a chain keeps to that has gathered something already. -/
theorem RunsFrom.account {gathered : μ} {parts : List (Nest ι)} {s s' : σ}
    {visits : List (Visit κ σ)} {r : ρ} (h : RunsFrom c g ctx gathered parts s visits r s') :
    ∃ brought, g.brings r = g.add gathered brought
      ∧ Account c g ctx (leavesOf parts) s visits brought (g.error? r) s' := by
  cases h with
  | nil =>
      refine ⟨g.nothing, ?_, .nil fun e he => ?_⟩
      · rw [g.brings_result, g.add_nothing]
      · rw [g.error?_result] at he
        cases he
  | cancelled hctx =>
      refine ⟨g.nothing, ?_, .nil fun e he => ?_⟩
      · rw [g.brings_result, g.add_nothing]
      · rw [g.error?_result] at he
        cases he
        exact ⟨rfl, hctx⟩
  | failed hctx hpart herror =>
      -- nothing follows the part, so its account is that of the chain
      refine ⟨_, g.brings_onTop _ _, ?_⟩
      rw [g.error?_onTop]
      exact hpart.account.mono (List.subset_append_left _ _)
  | next hctx hpart hok hrest =>
      obtain ⟨brought, hbrings, haccount⟩ := hrest.account
      have hfirst := hpart.account
      rw [hok] at hfirst
      refine ⟨_, ?_, (hfirst.mono (List.subset_append_left _ _)).append
        (haccount.mono (List.subset_append_right _ _))⟩
      rw [hbrings, g.add_assoc]

end

end Nest

end ConnectionRelay
