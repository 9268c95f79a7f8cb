/-
  ConnectionRelay.Proofs.Chains.Flattening
  ────────────────────────────────────────
  **THE RUNS OF A NEST ARE THOSE OF ITS LEAVES.**

  A nest and the chain of its leaves return the same; here it is shown that they also call
  the same leaves.  What is told of a computation by the calls that it has made is a
  computation of its own kind (`Visiting`): it is done one after the other and can look
  whether it is cancelled.  The runs of a nest are what carrying the nest out in this way
  comes to, so what holds of chains of any kind holds of them.  Main statements:

    • `Nest.runs_iff`, `Nest.runsFrom_iff` — runs are nests that are carried out so,
    • `Nest.runsFrom_leavesOf` — a chain of nests has the runs of the chain of their leaves,
    • `nesting_does_not_matter` — a tree of chains and the one chain of its leaves return the
      same and call the same leaves.
-/
import ConnectionRelay.Proofs.Chains.Leaves

namespace ConnectionRelay

/-! ## §1. Computations told by their visits. -/

/-- From which state, with which visits, a computation ends with a value and in a state. -/
def Visiting (κ σ α : Type) : Type := σ → List (Visit κ σ) → α → σ → Prop

namespace Visiting

variable {κ σ α β : Type}

instance : Monad (Visiting κ σ) where
  pure a := fun s visits r s' => visits = [] ∧ r = a ∧ s' = s
  bind t f := fun s visits r s' =>
    ∃ first later a u, visits = first ++ later ∧ t s first a u ∧ f a u later r s'

theorem ext {t u : Visiting κ σ α} (h : ∀ s visits r s', t s visits r s' ↔ u s visits r s') :
    t = u := by
  funext s visits r s'
  exact propext (h s visits r s')

theorem pure_iff {a r : α} {s s' : σ} {visits : List (Visit κ σ)} :
    (pure a : Visiting κ σ α) s visits r s' ↔ visits = [] ∧ r = a ∧ s' = s := Iff.rfl

theorem bind_iff {t : Visiting κ σ α} {f : α → Visiting κ σ β} {r : β} {s s' : σ}
    {visits : List (Visit κ σ)} : (t >>= f) s visits r s' ↔
      ∃ first later a u, visits = first ++ later ∧ t s first a u ∧ f a u later r s' := Iff.rfl

theorem pure_bind (a : α) (f : α → Visiting κ σ β) : (pure a >>= f) = f a := by
  refine ext fun s visits r s' => ?_
  rw [bind_iff]
  constructor
  · intro ⟨_, later, _, _, hvisits, ⟨rfl, rfl, rfl⟩, hf⟩
    rw [hvisits]
    exact hf
  · intro hf
    exact ⟨[], visits, a, s, rfl, ⟨rfl, rfl, rfl⟩, hf⟩

theorem bind_pure (t : Visiting κ σ α) : (t >>= pure) = t := by
  refine ext fun s visits r s' => ?_
  rw [bind_iff]
  constructor
  · intro ⟨first, _, _, _, hvisits, ht, ⟨rfl, rfl, rfl⟩⟩
    rw [hvisits, List.append_nil]
    exact ht
  · intro ht
    exact ⟨visits, [], r, s', (List.append_nil _).symm, ht, rfl, rfl, rfl⟩

theorem bind_assoc {γ : Type} (t : Visiting κ σ α) (f : α → Visiting κ σ β)
    (g : β → Visiting κ σ γ) : (t >>= f >>= g) = t >>= fun a => f a >>= g := by
  refine ext fun s visits r s' => ?_
  rw [bind_iff, bind_iff]
  constructor
  · intro ⟨_, last, b, v, hvisits, ⟨first, middle, a, u, hfirst, ht, hf⟩, hg⟩
    have happend : visits = first ++ (middle ++ last) := by
      rw [hvisits, hfirst, List.append_assoc]
    exact ⟨first, middle ++ last, a, u, happend, ht, middle, last, b, v, rfl, hf, hg⟩
  · intro ⟨first, _, a, u, hvisits, ht, middle, last, b, v, hlater, hf, hg⟩
    have happend : visits = (first ++ middle) ++ last := by
      rw [hvisits, hlater, List.append_assoc]
    exact ⟨first ++ middle, last, b, v, happend, ⟨first, middle, a, u, rfl, ht, hf⟩, hg⟩

instance : LawfulMonad (Visiting κ σ) := LawfulMonad.mk' _ bind_pure pure_bind bind_assoc

/-- What is told of a computation depends on whether it has found the context cancelled. -/
def look [HasTokens σ] (ctx : Context) : Look (Visiting κ σ) where
  check stopped go := fun s => if ctx.isCancelled s then stopped s else go s
  check_bind stopped go f := by
    funext s visits r s'
    by_cases hctx : ctx.isCancelled s = true
    · simp only [Bind.bind, if_pos hctx]
    · simp only [Bind.bind, if_neg hctx]
  check_check stopped again go := by
    funext s
    by_cases hctx : ctx.isCancelled s = true
    · rw [if_pos hctx, if_pos hctx]
    · rw [if_neg hctx, if_neg hctx]
      exact if_neg hctx

end Visiting

/-- A call of a leaf is one visit. -/
def Calling.visiting {ι κ σ ρ : Type} (c : Calling ι κ σ ρ) (item : ι) : Visiting κ σ ρ :=
  fun s visits r s' => ∃ step changes, visits = [⟨step, s, changes, s'⟩]
    ∧ c.Ran item ⟨step, s, changes, s'⟩ ∧ r = c.returned step

/-! ## §2. Runs of chains in chains. -/

namespace Nest

variable {ι κ σ ρ μ : Type} [HasTokens σ] {c : Calling ι κ σ ρ} {g : Gathering ρ μ}
  {ctx : Context} {s s' : σ} {visits : List (Visit κ σ)} {r r' : ρ}

mutual

/-- **The runs of a nest** are what carrying it out by visits comes to. -/
theorem runs_iff (nest : Nest ι) {s s' : σ} {visits : List (Visit κ σ)} {r : ρ} :
    Runs c g ctx nest s visits r s'
      ↔ nest.task g (Visiting.look ctx) c.visiting s visits r s' := by
  cases nest with
  | leaf item => exact runs_leaf_iff
  | chain parts => exact runs_chain_iff.trans (runsFrom_iff parts)

/-- The runs of a chain are what carrying it out by visits comes to. -/
theorem runsFrom_iff (parts : List (Nest ι)) {gathered : μ} {s s' : σ}
    {visits : List (Visit κ σ)} {r : ρ} :
    RunsFrom c g ctx gathered parts s visits r s'
      ↔ g.chainFrom (Visiting.look ctx) gathered (tasks g (Visiting.look ctx) c.visiting parts) s
          visits r s' := by
  cases parts with
  | nil => exact runsFrom_nil_iff
  | cons part rest =>
      rw [tasks, g.chainFrom_cons]
      -- both look at the context first, and then call the part and go on
      show _ ↔ (if ctx.isCancelled s then _ else _ : List (Visit κ σ) → ρ → σ → Prop) visits r s'
      cases hctx : ctx.isCancelled s with
      | true =>
          rw [if_pos rfl]
          exact runsFrom_cancelled_iff hctx
      | false =>
          rw [if_neg Bool.false_ne_true, runsFrom_cons_iff hctx, Visiting.bind_iff]
          simp only [runs_iff part, runsOn_iff rest]

/-- What follows a part is what carrying it out by visits comes to. -/
theorem runsOn_iff (rest : List (Nest ι)) {s s' : σ} {visits : List (Visit κ σ)} {r r' : ρ} :
    RunsOn c g ctx r rest s visits r' s'
      ↔ g.goOn (Visiting.look ctx) (tasks g (Visiting.look ctx) c.visiting rest) r s visits r'
          s' := by
  unfold RunsOn Gathering.goOn
  cases g.error? r with
  | none => exact runsFrom_iff rest
  | some e => exact Visiting.pure_iff.symm

end

/-- **The runs of a chain of nests** are those of the chain of their leaves. -/
theorem runsFrom_leavesOf (parts : List (Nest ι)) (hfull : AllFull parts) {gathered : μ} :
    RunsFrom c g ctx gathered parts s visits r s'
      ↔ RunsFrom c g ctx gathered ((leavesOf parts).map .leaf) s visits r s' := by
  rw [runsFrom_iff, runsFrom_iff, chainFrom_leavesOf g _ _ parts hfull, tasks_leaves]

end Nest

/-! ## §3. The one chain of the leaves. -/

/-- A leaf as a tree. -/
def FetchLeaf.tree : FetchLeaf → FetchTree
  | .any fetcher => .leaf fetcher
  | .ofStore store => .ofStore store

/-- The one chain of the leaves of a tree. -/
def FetchTree.flat (tree : FetchTree) : FetchTree := .chain (tree.leaves.map FetchLeaf.tree)

theorem FetchTree.nests_leaves (leaves : List FetchLeaf) :
    nests (leaves.map FetchLeaf.tree) = leaves.map .leaf := by
  induction leaves with
  | nil => rfl
  | cons leaf rest ih =>
      rw [List.map_cons, nests, ih]
      cases leaf <;> rfl

/-- The fetcher of the one chain is the chain of the fetchers of the leaves. -/
theorem FetchTree.fetcher_flat (tree : FetchTree) :
    tree.flat.fetcher = Fetcher.chain (tree.leaves.map FetchLeaf.fetcher) := by
  have hfetchers : ∀ leaves : List FetchLeaf,
      fetchers (leaves.map FetchLeaf.tree) = leaves.map FetchLeaf.fetcher := by
    intro leaves
    induction leaves with
    | nil => rfl
    | cons leaf rest ih =>
        rw [List.map_cons, fetchers, ih]
        cases leaf <;> rfl
  show Fetcher.chain _ = _
  rw [hfetchers]

/-- The one chain of the leaves makes the runs of the tree. -/
theorem FetchTree.runs_flat_iff {parts : List FetchTree} (hfull : (chain parts).nest.Full)
    {ctx : Context} {owner : Owner} {template : Template} {s s' : Session}
    {visits : List (Visit FetchStep Session)} {r : Result} :
    (chain parts).Runs ctx owner template s visits r s'
      ↔ (chain parts).flat.Runs ctx owner template s visits r s' := by
  show Nest.Runs _ _ _ (.chain (nests parts)) _ _ _ _
    ↔ Nest.Runs _ _ _ (.chain (nests ((chain parts).leaves.map FetchLeaf.tree))) _ _ _ _
  rw [nests_leaves, Nest.runs_chain_iff, Nest.runs_chain_iff]
  exact Nest.runsFrom_leavesOf (nests parts) hfull.2

/-- A leaf as a tree. -/
def PublishLeaf.tree : PublishLeaf → PublishTree
  | .any publisher => .leaf publisher
  | .ofStore store allowlist => .ofStore store allowlist

/-- The one chain of the leaves of a tree. -/
def PublishTree.flat (tree : PublishTree) : PublishTree :=
  .chain (tree.leaves.map PublishLeaf.tree)

theorem PublishTree.nests_leaves (leaves : List PublishLeaf) :
    nests (leaves.map PublishLeaf.tree) = leaves.map .leaf := by
  induction leaves with
  | nil => rfl
  | cons leaf rest ih =>
      rw [List.map_cons, nests, ih]
      cases leaf <;> rfl

/-- The publisher of the one chain is the chain of the publishers of the leaves. -/
theorem PublishTree.publisher_flat (tree : PublishTree) :
    tree.flat.publisher = Publisher.chain (tree.leaves.map PublishLeaf.publisher) := by
  have hpublishers : ∀ leaves : List PublishLeaf,
      publishers (leaves.map PublishLeaf.tree) = leaves.map PublishLeaf.publisher := by
    intro leaves
    induction leaves with
    | nil => rfl
    | cons leaf rest ih =>
        rw [List.map_cons, publishers, ih]
        cases leaf <;> rfl
  show Publisher.chain _ = _
  rw [hpublishers]

/-- The one chain of the leaves makes the runs of the tree. -/
theorem PublishTree.runs_flat_iff {parts : List PublishTree} (hfull : (chain parts).nest.Full)
    {ctx : Context} {owner : Owner} {details : Details} {s s' : Session}
    {visits : List (Visit PublishStep Session)} {r : Result} :
    (chain parts).Runs ctx owner details s visits r s'
      ↔ (chain parts).flat.Runs ctx owner details s visits r s' := by
  show Nest.Runs _ _ _ (.chain (nests parts)) _ _ _ _
    ↔ Nest.Runs _ _ _ (.chain (nests ((chain parts).leaves.map PublishLeaf.tree))) _ _ _ _
  rw [nests_leaves, Nest.runs_chain_iff, Nest.runs_chain_iff]
  exact Nest.runsFrom_leavesOf (nests parts) hfull.2

/-! ## §4. Nesting does not matter. -/

/-- **Nesting does not matter.** A tree of chains, none of them empty, is carried out in every
state like the one chain of its leaves from left to right, through every suspension and
cancellation, so both return the same.  Each ends exactly as one of its runs does, and the
two have the same runs: the same leaves are called in the same order with the same arguments,
in the same states, and for them the same is returned. -/
theorem nesting_does_not_matter :
    (∀ parts : List FetchTree, (FetchTree.chain parts).nest.Full →
        (FetchTree.chain parts).flat.fetcher
            = Fetcher.chain ((FetchTree.chain parts).leaves.map FetchLeaf.fetcher)
          ∧ (FetchTree.chain parts).fetcher = (FetchTree.chain parts).flat.fetcher
          ∧ ∀ ctx owner template s r s',
            (∀ (tree : FetchTree) changes,
              (tree.fetcher ctx owner template s).Ends changes r s' ↔
                ∃ visits, tree.Runs ctx owner template s visits r s'
                  ∧ changes = visits.flatMap Visit.changes)
            ∧ ∀ visits, (FetchTree.chain parts).Runs ctx owner template s visits r s'
                ↔ (FetchTree.chain parts).flat.Runs ctx owner template s visits r s')
      ∧ ∀ parts : List PublishTree, (PublishTree.chain parts).nest.Full →
        (PublishTree.chain parts).flat.publisher
            = Publisher.chain ((PublishTree.chain parts).leaves.map PublishLeaf.publisher)
          ∧ (PublishTree.chain parts).publisher = (PublishTree.chain parts).flat.publisher
          ∧ ∀ ctx owner details s r s',
            (∀ (tree : PublishTree) changes,
              (tree.publisher ctx owner details s).Ends changes r s' ↔
                ∃ visits, tree.Runs ctx owner details s visits r s'
                  ∧ changes = visits.flatMap Visit.changes)
            ∧ ∀ visits, (PublishTree.chain parts).Runs ctx owner details s visits r s'
                ↔ (PublishTree.chain parts).flat.Runs ctx owner details s visits r s' := by
  refine ⟨fun parts hfull => ⟨FetchTree.fetcher_flat _, ?_, fun ctx owner template s r s' => ?_⟩,
    fun parts hfull => ⟨PublishTree.publisher_flat _, ?_, fun ctx owner details s r s' => ?_⟩⟩
  · rw [FetchTree.chain_leaves hfull, FetchTree.fetcher_flat]
  · exact ⟨fun tree changes => FetchTree.ends_iff, fun visits => FetchTree.runs_flat_iff hfull⟩
  · rw [PublishTree.chain_leaves hfull, PublishTree.publisher_flat]
  · exact ⟨fun tree changes => PublishTree.ends_iff, fun visits => PublishTree.runs_flat_iff hfull⟩

namespace Sample

/-- A fetcher that returns nothing. -/
def nothing : Fetcher := fun _ _ _ => pure (.ok none)

/-- Three fetchers, two of them in a chain of their own. -/
def nestedFetchers : List FetchTree :=
  [.chain [.ofStore (.memory 0), .leaf nothing], .ofStore (.memory 1)]

/-- Two publishers, one of them three chains deep. -/
def nestedPublishers : List PublishTree :=
  [.ofStore (.memory 0) {}, .chain [.chain [.ofStore (.memory 1) ⟨["user"]⟩]]]

end Sample

open Sample in
theorem nested_samples_are_flat :
    (FetchTree.chain nestedFetchers).fetcher
        = Fetcher.chain [.ofStore (.memory 0), nothing, .ofStore (.memory 1)]
      ∧ (PublishTree.chain nestedPublishers).publisher
        = Publisher.chain [.ofStore (.memory 0) {}, .ofStore (.memory 1) ⟨["user"]⟩] := by
  have hfetchers : (FetchTree.chain nestedFetchers).nest.Full := by
    simp [nestedFetchers, FetchTree.nest, FetchTree.nests, Nest.Full, Nest.AllFull]
  have hpublishers : (PublishTree.chain nestedPublishers).nest.Full := by
    simp [nestedPublishers, PublishTree.nest, PublishTree.nests, Nest.Full, Nest.AllFull]
  obtain ⟨hflat, hsame, -⟩ := nesting_does_not_matter.1 nestedFetchers hfetchers
  obtain ⟨hflat', hsame', -⟩ := nesting_does_not_matter.2 nestedPublishers hpublishers
  exact ⟨hsame.trans hflat, hsame'.trans hflat'⟩

end ConnectionRelay
