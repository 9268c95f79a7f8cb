/-
  ConnectionRelay.Proofs.Chains.Nesting
  ─────────────────────────────────────
  **NESTING CHAINS DOES NOT MATTER.**

  A nest is a tree whose inner nodes are chains.  It is carried out like the one chain of
  its leaves, from left to right: an inner chain starts with nothing gathered and looks at
  the context once more, but what it gathers is added to what came before it, and a second
  look finds what the first one found.  A chain without parts is the exception, since the
  chain around it goes through one part more.  Main statements:

    • `Nest.chainFrom_leavesOf` — a chain of nests is the chain of their leaves,
    • `FetchTree.chain_leaves`, `PublishTree.chain_leaves` — and so are the trees of the
      relay.
-/
import ConnectionRelay.Proofs.Cancellation.Trees
import ConnectionRelay.Proofs.Chains.Gathering

namespace ConnectionRelay

/-! ## §1. Nests. -/

/-- Leaves, nested in chains. -/
inductive Nest (ι : Type) where
  | leaf (item : ι)
  | chain (parts : List (Nest ι))

namespace Nest

variable {ι ρ μ : Type} {m : Type → Type} [Monad m]

mutual

/-- Carry a nest out. -/
def task (g : Gathering ρ μ) (look : Look m) (act : ι → m ρ) : Nest ι → m ρ
  | .leaf item => act item
  | .chain parts => g.chain look (tasks g look act parts)

/-- The parts of a chain, to be carried out. -/
def tasks (g : Gathering ρ μ) (look : Look m) (act : ι → m ρ) : List (Nest ι) → List (m ρ)
  | [] => []
  | part :: rest => part.task g look act :: tasks g look act rest

end

mutual

/-- The leaves, from left to right. -/
def leaves : Nest ι → List ι
  | .leaf item => [item]
  | .chain parts => leavesOf parts

/-- The leaves of the parts of a chain. -/
def leavesOf : List (Nest ι) → List ι
  | [] => []
  | part :: rest => part.leaves ++ leavesOf rest

end

mutual

/-- No chain of the nest is empty. -/
def Full : Nest ι → Prop
  | .leaf _ => True
  | .chain parts => parts ≠ [] ∧ AllFull parts

/-- No chain of the parts of a chain is empty. -/
def AllFull : List (Nest ι) → Prop
  | [] => True
  | part :: rest => part.Full ∧ AllFull rest

end

variable (g : Gathering ρ μ) (look : Look m) (act : ι → m ρ)

theorem tasks_ne_nil {parts : List (Nest ι)} (h : parts ≠ []) : tasks g look act parts ≠ [] := by
  cases parts with
  | nil => exact absurd rfl h
  | cons part rest => exact List.cons_ne_nil _ _

theorem tasks_leaves (items : List ι) : tasks g look act (items.map .leaf) = items.map act := by
  induction items with
  | nil => rfl
  | cons item rest ih => rw [List.map_cons, List.map_cons, tasks, task, ih]

/-- **A chain of nests** is carried out like the chain of their leaves. -/
theorem chainFrom_leavesOf [LawfulMonad m] (parts : List (Nest ι)) (hfull : AllFull parts)
    (gathered : μ) :
    g.chainFrom look gathered (tasks g look act parts)
      = g.chainFrom look gathered ((leavesOf parts).map act) := by
  -- on the parts, and on the parts of the first one if that is a chain itself
  match parts with
  | [] => rfl
  | .leaf item :: rest =>
      have hrest := chainFrom_leavesOf rest hfull.2
      show g.chainFrom look gathered (act item :: tasks g look act rest)
        = g.chainFrom look gathered (act item :: (leavesOf rest).map act)
      rw [g.chainFrom_cons, g.chainFrom_cons, g.goOn_congr look hrest]
  | .chain inner :: rest =>
      have hinner := chainFrom_leavesOf inner hfull.1.2
      have hrest := chainFrom_leavesOf rest hfull.2
      show g.chainFrom look gathered
          (g.chain look (tasks g look act inner) :: tasks g look act rest)
        = g.chainFrom look gathered ((leavesOf inner ++ leavesOf rest).map act)
      rw [g.chainFrom_chain look gathered (tasks_ne_nil g look act hfull.1.1), g.chainFrom_append,
        hinner, g.goOn_congr look hrest, List.map_append, g.chainFrom_append]

end Nest

/-! ## §2. Nested fetchers. -/

/-- A fetcher that stands in a tree as a leaf. -/
inductive FetchLeaf where
  | any (fetcher : Fetcher)
  | ofStore (store : SecretStore)

/-- The fetcher of a leaf. -/
def FetchLeaf.fetcher : FetchLeaf → Fetcher
  | .any fetcher => fetcher
  | .ofStore store => .ofStore store

namespace FetchTree

mutual

/-- A tree as a nest of its leaves. -/
def nest : FetchTree → Nest FetchLeaf
  | .leaf fetcher => .leaf (.any fetcher)
  | .ofStore store => .leaf (.ofStore store)
  | .chain parts => .chain (nests parts)

/-- The parts of a chain as nests of their leaves. -/
def nests : List FetchTree → List (Nest FetchLeaf)
  | [] => []
  | part :: rest => part.nest :: nests rest

end

/-- The leaves of a tree, from left to right. -/
def leaves (tree : FetchTree) : List FetchLeaf := tree.nest.leaves

section

variable (ctx : Context) (owner : Owner) (template : Template)

mutual

/-- The fetcher of a tree carries its nest out. -/
theorem fetcher_eq (tree : FetchTree) :
    tree.fetcher ctx owner template
      = tree.nest.task Fetcher.gathering ctx.look fun leaf => leaf.fetcher ctx owner template := by
  cases tree with
  | leaf fetcher => rfl
  | ofStore store => rfl
  | chain parts =>
      show Fetcher.chainFrom .empty (fetchers parts) ctx owner template
        = Fetcher.gathering.chainFrom ctx.look .empty (Nest.tasks _ ctx.look _ (nests parts))
      rw [Fetcher.chainFrom_eq, fetchers_eq parts]

theorem fetchers_eq (parts : List FetchTree) :
    ((fetchers parts).map fun f => f ctx owner template)
      = Nest.tasks Fetcher.gathering ctx.look (fun leaf => leaf.fetcher ctx owner template)
          (nests parts) := by
  cases parts with
  | nil => rfl
  | cons part rest =>
      rw [fetchers, List.map_cons, nests, Nest.tasks, fetcher_eq part, fetchers_eq rest]

end

end

/-- **A tree of fetchers** is the chain of its leaves. -/
theorem chain_leaves {parts : List FetchTree} (hfull : (chain parts).nest.Full) :
    (chain parts).fetcher = Fetcher.chain ((chain parts).leaves.map FetchLeaf.fetcher) := by
  funext ctx owner template
  show _ = Fetcher.chainFrom .empty _ ctx owner template
  rw [fetcher_eq, Fetcher.chainFrom_eq, List.map_map]
  exact Nest.chainFrom_leavesOf _ ctx.look _ (nests parts) hfull.2 _

end FetchTree

/-! ## §3. Nested publishers. -/

/-- A publisher that stands in a tree as a leaf. -/
inductive PublishLeaf where
  | any (publisher : Publisher)
  | ofStore (store : SecretStore) (allowlist : Allowlist)

/-- The publisher of a leaf. -/
def PublishLeaf.publisher : PublishLeaf → Publisher
  | .any publisher => publisher
  | .ofStore store allowlist => .ofStore store allowlist

namespace PublishTree

mutual

/-- A tree as a nest of its leaves. -/
def nest : PublishTree → Nest PublishLeaf
  | .leaf publisher => .leaf (.any publisher)
  | .ofStore store allowlist => .leaf (.ofStore store allowlist)
  | .chain parts => .chain (nests parts)

/-- The parts of a chain as nests of their leaves. -/
def nests : List PublishTree → List (Nest PublishLeaf)
  | [] => []
  | part :: rest => part.nest :: nests rest

end

/-- The leaves of a tree, from left to right. -/
def leaves (tree : PublishTree) : List PublishLeaf := tree.nest.leaves

section

variable (ctx : Context) (owner : Owner) (details : Details)

mutual

/-- The publisher of a tree carries its nest out. -/
theorem publisher_eq (tree : PublishTree) :
    tree.publisher ctx owner details
      = tree.nest.task Publisher.gathering ctx.look
          fun leaf => leaf.publisher ctx owner details := by
  cases tree with
  | leaf publisher => rfl
  | ofStore store allowlist => rfl
  | chain parts =>
      show Publisher.chainFrom false (publishers parts) ctx owner details
        = Publisher.gathering.chainFrom ctx.look false (Nest.tasks _ ctx.look _ (nests parts))
      rw [Publisher.chainFrom_eq, publishers_eq parts]

theorem publishers_eq (parts : List PublishTree) :
    ((publishers parts).map fun p => p ctx owner details)
      = Nest.tasks Publisher.gathering ctx.look (fun leaf => leaf.publisher ctx owner details)
          (nests parts) := by
  cases parts with
  | nil => rfl
  | cons part rest =>
      rw [publishers, List.map_cons, nests, Nest.tasks, publisher_eq part, publishers_eq rest]

end

end

/-- **A tree of publishers** is the chain of its leaves. -/
theorem chain_leaves {parts : List PublishTree} (hfull : (chain parts).nest.Full) :
    (chain parts).publisher
      = Publisher.chain ((chain parts).leaves.map PublishLeaf.publisher) := by
  funext ctx owner details
  show _ = Publisher.chainFrom false _ ctx owner details
  rw [publisher_eq, Publisher.chainFrom_eq, List.map_map]
  exact Nest.chainFrom_leavesOf _ ctx.look _ (nests parts) hfull.2 _

end PublishTree

end ConnectionRelay
