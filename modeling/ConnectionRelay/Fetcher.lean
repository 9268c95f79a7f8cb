/-
  ConnectionRelay.Fetcher
  ───────────────────────
  **FETCHING THE DETAILS OF A COMPOSED RESOURCE.**

  A fetcher returns the details that a composed resource contributes, or nothing.  A
  chain asks its fetchers in order, later details winning, and stops at the first
  error with what it gathered.  The fetcher of a store reads the connection secret and
  copies the keys that the template declares (`Selection`); a declared key that the
  secret does not have is passed over, as it may still be written later.
-/
import ConnectionRelay.Store.Basic

namespace ConnectionRelay

/-- What fetches the details of a composed resource. -/
abbrev Fetcher := Context → Owner → Template → Operation (Except FetchError (Option Details))

/-! ## §1. Chains. -/

namespace Fetcher

/-- Ask fetchers in order and add what they return to what is gathered already. -/
def chainFrom (gathered : Details) : List Fetcher → Fetcher
  | [], _, _, _ => pure (.ok (some gathered))
  | fetcher :: rest, ctx, owner, template => do
      match ← ctx.ensureActive with
      | .error e => pure (.error ⟨e, some gathered⟩)
      | .ok () =>
          match ← fetcher ctx owner template with
          | .ok fetched => chainFrom (gathered.mergeSome fetched) rest ctx owner template
          | .error e => pure (.error ⟨e.source, some (gathered.mergeSome e.gathered)⟩)

/-- Ask fetchers in order. -/
def chain (fetchers : List Fetcher) : Fetcher := chainFrom .empty fetchers

/-- What a chain looks like in messages. -/
def describeChain (length : Nat) : String :=
  "ConnectionDetailsFetcherChain \x7b fetchers: " ++ toString length ++ " \x7d"

end Fetcher

/-! ## §2. The details a template declares. -/

/-- What a declaration copies from a connection secret. -/
inductive Copying where
  /-- Nothing: its value comes from elsewhere. -/
  | nothing
  /-- A key that it fails to name. -/
  | unnamed
  /-- The value of a key, passed on under another. -/
  | key (source target : String)
  deriving DecidableEq, Repr

/-- What the declaration copies; without a name of its own the key keeps its name. -/
def Declaration.copying (d : Declaration) : Copying :=
  match d.effectiveType, d.secretKey with
  | .fromConnectionSecretKey, some source => .key source (d.name.getD source)
  | .fromConnectionSecretKey, none => .unnamed
  | _, _ => .nothing

/-- What was selected from the payload of a secret. -/
structure Selection where
  picked : Details := .empty
  /-- The declared keys that the payload does not have, in order. -/
  absent : List String := []
  /-- Did a declaration fail to name its key? -/
  unnamed : Bool := false

namespace Selection

/-- Copy a key of the payload; an empty target takes nothing. -/
def copy (payload : Details) (s : Selection) (source target : String) : Selection :=
  match payload.get? source with
  | none => { s with absent := s.absent ++ [source] }
  | some value =>
      if target = "" then s else { s with picked := s.picked.insert target value }

/-- Follow declarations in order, up to the first that fails to name its key. -/
def follow (payload : Details) (s : Selection) : List Declaration → Selection
  | [] => s
  | d :: rest =>
      match d.copying with
      | .nothing => s.follow payload rest
      | .unnamed => { s with unnamed := true }
      | .key source target => (s.copy payload source target).follow payload rest

/-- Select what a template declares from a payload. -/
def of (payload : Details) (template : Template) : Selection :=
  follow payload {} template.details

/-- The details that were selected, if any; a declaration without its key is an error. -/
def result (s : Selection) : Except FetchError (Option Details) :=
  if s.unnamed then .error ⟨.missingKeyReference .fromConnectionSecretKey, none⟩
  else if s.picked.isEmpty then .ok none
  else .ok (some s.picked)

end Selection

/-! ## §3. The fetcher of a store. -/

namespace Fetcher

/-- Log which keys are not there yet. -/
def logAbsent (owner : Owner) : List String → Operation Unit
  | [] => pure ()
  | key :: rest => do
      Operation.log .debug .fetcher
        ("Connection secret of " ++ owner.name ++ " has no key '" ++ key ++ "' yet, skipping")
      logAbsent owner rest

/-- Report a selection: log what is absent and count what is picked. -/
def report (owner : Owner) (s : Selection) : Operation (Except FetchError (Option Details)) := do
  logAbsent owner s.absent
  match s.result with
  | .ok (some details) => do
      Operation.count .fetched details.size
      pure (.ok (some details))
  | result => pure result

theorem logAbsent_apply (owner : Owner) (keys : List String) (s : Session) :
    logAbsent owner keys s = .done () (logAbsent owner keys s).state := by
  induction keys generalizing s with
  | nil => rfl
  | cons key rest ih => exact ih _

/-- A report is not suspended, and ends with the result of the selection. -/
theorem report_apply (owner : Owner) (selection : Selection) (s : Session) :
    report owner selection s = .done selection.result (report owner selection s).state := by
  unfold report
  rw [Task.bind_apply, logAbsent_apply]
  cases hresult : selection.result with
  | error e => rfl
  | ok fetched =>
      cases fetched with
      | none => rfl
      | some details => rfl

/-- Fetch what a template declares from the connection secret in a store. -/
def ofStore (store : SecretStore) : Fetcher := fun ctx owner template => do
  match ← ctx.run (store.read ctx owner) with
  | .error e => pure (.error ⟨e, none⟩)
  | .ok (.error f) => pure (.error ⟨.ofFailure .fetchSecret f, none⟩)
  | .ok (.ok payload) => report owner (.of (payload.getD .empty) template)

/-- What the fetcher of a store looks like in messages. -/
def describeOfStore : String := "SecretStoreConnectionDetailsFetcher \x7b .. \x7d"

end Fetcher

end ConnectionRelay
