/-
  ConnectionRelay.Proofs.Chains.Gathering
  ───────────────────────────────────────
  **CHAINS, WHATEVER THEY GATHER.**

  A chain of fetchers gathers details, and a chain of publishers whether anything was
  published.  Both go through their parts in order, look at the context before each of them,
  add what a part brings to what is gathered, and stop at the first error.  A `Gathering`
  says what is gathered and how; all else is the same for both.  Nor does it matter what the
  parts are, as long as they are done one after the other and can look whether they are
  cancelled (`Look`): they may be tasks, or what is told of tasks afterwards.  Main
  statements:

    • `chainFrom_append` — a chain of two lists goes through one and then through the other,
    • `chainFrom_chain` — a chain as a part of a chain is as good as its own parts,
    • `Fetcher.chainFrom_eq`, `Publisher.chainFrom_eq` — the chains of the relay are of this
      kind.
-/
import ConnectionRelay.Fetcher
import ConnectionRelay.Publisher

namespace ConnectionRelay

/-! ## §1. Gatherings. -/

/-- What a chain gathers from what its parts return (`ρ`), and how (`μ`). -/
structure Gathering (ρ μ : Type) where
  /-- What is gathered before any part has returned. -/
  nothing : μ
  /-- Add something to what is gathered. -/
  add : μ → μ → μ
  /-- The error that a part has returned, if it has returned one. -/
  error? : ρ → Option ConnectionError
  /-- What a part brings, with an error or without. -/
  brings : ρ → μ
  /-- What a chain returns that has ended with an error, or without. -/
  result : Option ConnectionError → μ → ρ
  add_assoc : ∀ a b c, add (add a b) c = add a (add b c)
  add_nothing : ∀ a, add a nothing = a
  nothing_add : ∀ a, add nothing a = a
  error?_result : ∀ e m, error? (result e m) = e
  brings_result : ∀ e m, brings (result e m) = m

/-- How computations look whether they are cancelled. -/
structure Look (m : Type → Type) [Monad m] where
  /-- Do the one if cancelled, and the other if not. -/
  check {α : Type} (stopped go : m α) : m α
  check_bind : ∀ {α β : Type} (stopped go : m α) (f : α → m β),
    (check stopped go >>= f) = check (stopped >>= f) (go >>= f)
  /-- A second look finds what the first one found. -/
  check_check : ∀ {α : Type} (stopped again go : m α),
    check stopped (check again go) = check stopped go

/-- Tasks look at the context. -/
def Context.look {σ : Type} [HasTokens σ] (ctx : Context) : Look (Task σ) where
  check stopped go := fun s => if ctx.isCancelled s then stopped s else go s
  check_bind stopped go f := by
    funext s
    show (if ctx.isCancelled s then stopped s else go s).bind f = _
    split <;> rfl
  check_check stopped again go := by
    funext s
    by_cases hctx : ctx.isCancelled s = true
    · rw [if_pos hctx, if_pos hctx]
    · rw [if_neg hctx, if_neg hctx]
      exact if_neg hctx

/-! ## §2. Chains. -/

namespace Gathering

variable {m : Type → Type} [Monad m] {ρ μ : Type}

/-- What is returned in place of a result, if something was gathered before it. -/
def onTop (g : Gathering ρ μ) (gathered : μ) (r : ρ) : ρ :=
  g.result (g.error? r) (g.add gathered (g.brings r))

/-- Go through the parts of a chain and add what they bring to what is gathered already. -/
def chainFrom (g : Gathering ρ μ) (look : Look m) (gathered : μ) : List (m ρ) → m ρ
  | [] => pure (g.result none gathered)
  | part :: rest => look.check (pure (g.result (some .cancelled) gathered)) do
      let r ← part
      match g.error? r with
      | some _ => pure (g.onTop gathered r)
      | none => g.chainFrom look (g.add gathered (g.brings r)) rest

/-- Go through the parts of a chain. -/
def chain (g : Gathering ρ μ) (look : Look m) (parts : List (m ρ)) : m ρ :=
  g.chainFrom look g.nothing parts

/-- Go on with the rest of a chain after what has come so far, unless that is an error. -/
def goOn (g : Gathering ρ μ) (look : Look m) (rest : List (m ρ)) (r : ρ) : m ρ :=
  match g.error? r with
  | some _ => pure r
  | none => g.chainFrom look (g.brings r) rest

variable (g : Gathering ρ μ) (look : Look m)

@[simp] theorem error?_onTop (gathered : μ) (r : ρ) : g.error? (g.onTop gathered r) = g.error? r :=
  g.error?_result _ _

@[simp] theorem brings_onTop (gathered : μ) (r : ρ) :
    g.brings (g.onTop gathered r) = g.add gathered (g.brings r) :=
  g.brings_result _ _

theorem onTop_result (before gathered : μ) (e : Option ConnectionError) :
    g.onTop before (g.result e gathered) = g.result e (g.add before gathered) := by
  unfold onTop
  rw [g.error?_result, g.brings_result]

theorem onTop_onTop (before gathered : μ) (r : ρ) :
    g.onTop before (g.onTop gathered r) = g.onTop (g.add before gathered) r := by
  unfold onTop
  rw [g.error?_result, g.brings_result, g.add_assoc]

theorem goOn_of_error {r : ρ} {e : ConnectionError} (h : g.error? r = some e)
    (rest : List (m ρ)) : g.goOn look rest r = pure r := by
  unfold goOn
  rw [h]

theorem goOn_of_ok {r : ρ} (h : g.error? r = none) (rest : List (m ρ)) :
    g.goOn look rest r = g.chainFrom look (g.brings r) rest := by
  unfold goOn
  rw [h]

theorem goOn_result (gathered : μ) (rest : List (m ρ)) :
    g.goOn look rest (g.result none gathered) = g.chainFrom look gathered rest := by
  rw [g.goOn_of_ok look (g.error?_result _ _), g.brings_result]

theorem chainFrom_cons (gathered : μ) (part : m ρ) (rest : List (m ρ)) :
    g.chainFrom look gathered (part :: rest)
      = look.check (pure (g.result (some .cancelled) gathered))
          (part >>= fun r => g.goOn look rest (g.onTop gathered r)) := by
  have hgoOn : ∀ r, g.goOn look rest (g.onTop gathered r)
      = match g.error? r with
        | some _ => pure (g.onTop gathered r)
        | none => g.chainFrom look (g.add gathered (g.brings r)) rest := by
    intro r
    unfold goOn
    rw [error?_onTop, brings_onTop]
  rw [chainFrom]
  simp only [hgoOn]

/-- A chain of tasks looks at the context in the state that it has come to. -/
theorem chainFrom_apply {σ : Type} [HasTokens σ] (ctx : Context) (gathered : μ)
    (part : Task σ ρ) (rest : List (Task σ ρ)) (s : σ) :
    g.chainFrom ctx.look gathered (part :: rest) s
      = if ctx.isCancelled s then .done (g.result (some .cancelled) gathered) s
        else (part s).bind fun r => g.goOn ctx.look rest (g.onTop gathered r) := by
  rw [chainFrom_cons]
  rfl

theorem goOn_congr {rest rest' : List (m ρ)}
    (h : ∀ gathered, g.chainFrom look gathered rest = g.chainFrom look gathered rest') :
    g.goOn look rest = g.goOn look rest' := by
  funext r
  unfold goOn
  rw [h]

/-! ## §3. Chains in chains. -/

variable [LawfulMonad m]

/-- What was gathered before a chain lies under what the chain returns. -/
theorem chainFrom_add (before gathered : μ) (parts : List (m ρ)) :
    g.chainFrom look (g.add before gathered) parts
      = g.chainFrom look gathered parts >>= fun r => pure (g.onTop before r) := by
  -- on the parts, with what is gathered general
  induction parts generalizing gathered with
  | nil => rw [chainFrom, chainFrom, pure_bind, onTop_result]
  | cons part rest ih =>
      have hgoOn : ∀ r, g.goOn look rest (g.onTop (g.add before gathered) r)
          = g.goOn look rest (g.onTop gathered r) >>= fun r => pure (g.onTop before r) := by
        intro r
        rw [← onTop_onTop]
        cases herror : g.error? (g.onTop gathered r) with
        | some e =>
            have habove : g.error? (g.onTop before (g.onTop gathered r)) = some e := by
              rw [error?_onTop, herror]
            rw [g.goOn_of_error look herror, g.goOn_of_error look habove, pure_bind]
        | none =>
            have habove : g.error? (g.onTop before (g.onTop gathered r)) = none := by
              rw [error?_onTop, herror]
            rw [g.goOn_of_ok look herror, g.goOn_of_ok look habove, brings_onTop, ih]
      rw [chainFrom_cons, chainFrom_cons, look.check_bind, pure_bind, onTop_result, bind_assoc]
      simp only [hgoOn]

/-- **A chain of two lists** goes through the first and then through the second. -/
theorem chainFrom_append (gathered : μ) (parts rest : List (m ρ)) :
    g.chainFrom look gathered (parts ++ rest)
      = g.chainFrom look gathered parts >>= g.goOn look rest := by
  induction parts generalizing gathered with
  | nil => rw [List.nil_append, chainFrom, pure_bind, goOn_result]
  | cons part parts ih =>
      -- after the first part the rest of both lists goes on, or none of it does
      have hgoOn : ∀ r, g.goOn look (parts ++ rest) r
          = g.goOn look parts r >>= g.goOn look rest := by
        intro r
        cases herror : g.error? r with
        | some e =>
            rw [g.goOn_of_error look herror, g.goOn_of_error look herror, pure_bind,
              g.goOn_of_error look herror]
        | none => rw [g.goOn_of_ok look herror, g.goOn_of_ok look herror, ih]
      rw [List.cons_append, chainFrom_cons, chainFrom_cons, look.check_bind, pure_bind,
        g.goOn_of_error look (g.error?_result _ _), bind_assoc]
      simp only [hgoOn]

/-- **A chain within a chain** is as good as its parts, if it has any. -/
theorem chainFrom_chain (gathered : μ) {parts : List (m ρ)} (hparts : parts ≠ [])
    (rest : List (m ρ)) :
    g.chainFrom look gathered (g.chain look parts :: rest)
      = g.chainFrom look gathered (parts ++ rest) := by
  have hadd : g.chainFrom look gathered parts
      = g.chain look parts >>= fun r => pure (g.onTop gathered r) := by
    rw [chain, ← chainFrom_add, g.add_nothing]
  rw [chainFrom_cons, chainFrom_append, hadd, bind_assoc]
  simp only [pure_bind]
  -- a chain that has parts looks itself, and finds what was found before it
  obtain ⟨part, others, rfl⟩ := List.exists_cons_of_ne_nil hparts
  rw [chain, chainFrom_cons, look.check_bind, look.check_check, pure_bind, onTop_result,
    g.add_nothing, g.goOn_of_error look (g.error?_result _ _)]

end Gathering

/-! ## §4. The chains of the relay. -/

theorem Details.mergeSome_eq (d : Details) (more : Option Details) :
    d.mergeSome more = d.merge (more.getD .empty) := by
  cases more with
  | none => exact (Dict.merge_empty d).symm
  | some details => rfl

/-- Fetchers gather details, of which later ones win. -/
def Fetcher.gathering : Gathering (Except FetchError (Option Details)) Details where
  nothing := .empty
  add := Dict.merge
  error?
    | .ok _ => none
    | .error e => some e.source
  brings
    | .ok fetched => fetched.getD .empty
    | .error e => e.gathered.getD .empty
  result
    | none, gathered => .ok (some gathered)
    | some e, gathered => .error ⟨e, some gathered⟩
  add_assoc := Dict.merge_assoc
  add_nothing := Dict.merge_empty
  nothing_add := Dict.empty_merge
  error?_result e _ := by cases e <;> rfl
  brings_result e _ := by cases e <;> rfl

/-- Publishers gather whether anything was published. -/
def Publisher.gathering : Gathering (Except PublishError Bool) Bool where
  nothing := false
  add := or
  error?
    | .ok _ => none
    | .error e => some e.source
  brings
    | .ok flag => flag
    | .error e => e.published
  result
    | none, published => .ok published
    | some e, published => .error ⟨e, published⟩
  add_assoc := Bool.or_assoc
  add_nothing := Bool.or_false
  nothing_add := Bool.false_or
  error?_result e _ := by cases e <;> rfl
  brings_result e _ := by cases e <;> rfl

/-- A chain of fetchers gathers details. -/
theorem Fetcher.chainFrom_eq (ctx : Context) (owner : Owner) (template : Template)
    (gathered : Details) (fetchers : List Fetcher) :
    chainFrom gathered fetchers ctx owner template
      = gathering.chainFrom ctx.look gathered (fetchers.map fun f => f ctx owner template) := by
  induction fetchers generalizing gathered with
  | nil => rfl
  | cons fetcher rest ih =>
      funext s
      rw [List.map_cons, Gathering.chainFrom_apply, chainFrom, Task.bind_apply,
        Context.ensureActive]
      by_cases hctx : ctx.isCancelled s = true
      · rw [if_pos hctx, if_pos hctx]
        rfl
      · rw [if_neg hctx, if_neg hctx]
        show (fetcher ctx owner template s).bind _ = (fetcher ctx owner template s).bind _
        congr 1
        funext r
        cases r with
        | ok fetched =>
            simp only [Details.mergeSome_eq, ih]
            rfl
        | error e =>
            simp only [Details.mergeSome_eq]
            rfl

/-- A chain of publishers gathers whether anything was published. -/
theorem Publisher.chainFrom_eq (ctx : Context) (owner : Owner) (details : Details)
    (published : Bool) (publishers : List Publisher) :
    chainFrom published publishers ctx owner details
      = gathering.chainFrom ctx.look published (publishers.map fun p => p ctx owner details) := by
  induction publishers generalizing published with
  | nil => rfl
  | cons publisher rest ih =>
      funext s
      rw [List.map_cons, Gathering.chainFrom_apply, chainFrom, Task.bind_apply,
        Context.ensureActive]
      by_cases hctx : ctx.isCancelled s = true
      · rw [if_pos hctx, if_pos hctx]
        rfl
      · rw [if_neg hctx, if_neg hctx]
        show (publisher ctx owner details s).bind _ = (publisher ctx owner details s).bind _
        congr 1
        funext r
        cases r with
        | ok flag =>
            simp only [ih]
            rfl
        | error e => rfl

end ConnectionRelay
