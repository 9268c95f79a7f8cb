/-
  ConnectionRelay.Proofs.Chains.ErrorClass
  ────────────────────────────────────────
  **ERRORS KEEP THEIR CLASS ON THE WAY UP.**

  A collaborator fails with a root, and any number of contexts around it.  The relay looks
  through the contexts at the root: a cancellation stays one, and any other failure is
  wrapped in the error of the operation, which is worth a retry.  Chains pass the error on as
  it is, so what an operation returns tells whether it is worth a retry, or was cancelled.
  Main statements:

    • `ofFailure_within` — the error for a failure,
    • `FetchTree.retryable_iff`, `PublishTree.retryable_iff`, `Call.Made.retryable_iff` — when
      the error of an operation is worth a retry,
    • `errors_keep_their_class` — both, and that chains change no error.
-/
import ConnectionRelay.Proofs.Chains.Leaves
import ConnectionRelay.Proofs.Configuring.Call

namespace ConnectionRelay

/-! ## §1. The error for a failure. -/

/-- The kinds of error that the failure of a collaborator is wrapped in. -/
inductive ErrorKind where
  | fetching
  | publishing
  | configuring

namespace ErrorKind

/-- The error that a failure of the collaborator is wrapped in. -/
def wrap : ErrorKind → Failure → ConnectionError
  | .fetching => .fetchSecret
  | .publishing => .publish
  | .configuring => .updateComposite

/-- What the text of that error begins with. -/
def heading : ErrorKind → String
  | .fetching => "cannot fetch connection secret: "
  | .publishing => "cannot publish connection details: "
  | .configuring => "cannot update composite resource: "

theorem message_wrap (kind : ErrorKind) (f : Failure) :
    (kind.wrap f).message = kind.heading ++ f.message := by
  cases kind with
  | fetching => rfl
  | publishing => rfl
  | configuring => rfl

theorem isRetryable_wrap (kind : ErrorKind) (f : Failure) : (kind.wrap f).isRetryable = true := by
  cases kind <;> rfl

theorem wrap_ne_cancelled (kind : ErrorKind) (f : Failure) : kind.wrap f ≠ .cancelled := by
  cases kind <;> rintro ⟨⟩

end ErrorKind

namespace Failure

/-- There is no context around the failure. -/
def IsRoot : Failure → Prop
  | .context _ _ => False
  | _ => True

/-- At the root of the failure is the Cancelled error. -/
def Cancelled (f : Failure) : Prop := f.root? = some .cancelled

/-- Every failure is a root within contexts. -/
theorem exists_root (f : Failure) :
    ∃ (root : Failure) (contexts : List String), root.IsRoot ∧ f = root.within contexts := by
  match f with
  | .plain message => exact ⟨.plain message, [], trivial, rfl⟩
  | .relay e => exact ⟨.relay e, [], trivial, rfl⟩
  | .carried e => exact ⟨.carried e, [], trivial, rfl⟩
  | .context doing inner =>
      obtain ⟨root, contexts, hroot, hinner⟩ := exists_root inner
      refine ⟨root, contexts ++ [doing], hroot, ?_⟩
      unfold within at hinner ⊢
      rw [List.foldl_append, ← hinner]
      rfl

theorem root?_within (f : Failure) (contexts : List String) :
    (f.within contexts).root? = f.root? := by
  induction contexts generalizing f with
  | nil => rfl
  | cons doing rest ih => exact ih (.context doing f)

/-- Contexts hide neither that a failure was cancelled nor that it was not. -/
theorem cancelled_within_iff {root : Failure} (hroot : root.IsRoot) (contexts : List String) :
    (root.within contexts).Cancelled ↔ root = .relay .cancelled := by
  unfold Cancelled
  rw [root?_within]
  cases root with
  | context doing inner => exact hroot.elim
  | plain message => simp [root?]
  | relay e => simp [root?]
  | carried e => simp [root?]

/-- The text of a failure is its outermost context. -/
theorem message_within (f : Failure) (contexts : List String) :
    (f.within contexts).message = contexts.getLast?.getD f.message := by
  induction contexts generalizing f with
  | nil => rfl
  | cons doing rest ih =>
      show ((Failure.context doing f).within rest).message = _
      rw [ih, message, List.getLast?_cons]
      rfl

end Failure

namespace ConnectionError

theorem ofFailure_of_cancelled {f : Failure} (h : f.Cancelled) (wrap : Failure → ConnectionError) :
    ofFailure wrap f = .cancelled := by
  unfold ofFailure
  rw [show f.root? = _ from h]

theorem ofFailure_of_not {f : Failure} (h : ¬ f.Cancelled) (wrap : Failure → ConnectionError) :
    ofFailure wrap f = wrap f := by
  unfold ofFailure
  split
  · next hroot => exact absurd hroot h
  · rfl

/-- The error for a failure is worth a retry unless the failure was cancelled. -/
theorem isRetryable_ofFailure (kind : ErrorKind) (f : Failure) :
    (ofFailure kind.wrap f).isRetryable = true ↔ ¬ f.Cancelled := by
  by_cases h : f.Cancelled
  · rw [ofFailure_of_cancelled h]
    exact ⟨fun hretry => (Bool.false_ne_true hretry).elim, fun hnot => absurd h hnot⟩
  · rw [ofFailure_of_not h]
    exact ⟨fun _ => h, fun _ => kind.isRetryable_wrap f⟩

/-- No error is a cancellation and worth a retry. -/
theorem not_retryable_and_cancelled (e : ConnectionError) :
    ¬ (e.isRetryable = true ∧ e.isCancelled = true) := by
  cases e <;> simp [isRetryable, isCancelled]

/-- **The error for a failure**, whatever the contexts around its root. -/
theorem ofFailure_within (kind : ErrorKind) {root : Failure} (hroot : root.IsRoot)
    (contexts : List String) :
    (ofFailure kind.wrap (root.within contexts) = .cancelled ↔ root = .relay .cancelled)
      ∧ (root ≠ .relay .cancelled →
          ofFailure kind.wrap (root.within contexts) = kind.wrap (root.within contexts)
          ∧ (ofFailure kind.wrap (root.within contexts)).message
              = kind.heading ++ contexts.getLast?.getD root.message
          ∧ (ofFailure kind.wrap (root.within contexts)).isRetryable = true) := by
  have hcancelled := Failure.cancelled_within_iff hroot contexts
  refine ⟨⟨fun h => ?_, fun h => ofFailure_of_cancelled (hcancelled.2 h) _⟩, fun hne => ?_⟩
  · refine Classical.byContradiction fun hne => ?_
    rw [ofFailure_of_not fun h => hne (hcancelled.1 h)] at h
    exact kind.wrap_ne_cancelled _ h
  · have hwrap := ofFailure_of_not (fun h => hne (hcancelled.1 h)) kind.wrap
    refine ⟨hwrap, ?_, ?_⟩
    · rw [hwrap, kind.message_wrap, Failure.message_within]
    · rw [hwrap, kind.isRetryable_wrap]

end ConnectionError

/-! ## §2. The error of a nest. -/

/-- When the error of a run is worth a retry, if this is known of the leaves. -/
theorem Nest.Account.retryable_iff {ι κ σ ρ μ : Type} [HasTokens σ] {c : Calling ι κ σ ρ}
    {g : Gathering ρ μ} {ctx : Context} {leaves : List ι} {s s' : σ} {visits : List (Visit κ σ)}
    {m : μ} {e : ConnectionError} {Failed : κ → Prop}
    (h : Account c g ctx leaves s visits m (some e) s')
    (hleaf : ∀ leaf ∈ leaves, ∀ visit, c.Ran leaf visit → ∀ e,
      g.error? (c.returned visit.step) = some e → (e.isRetryable = true ↔ Failed visit.step))
    (hfailed : ∀ step, Failed step → ∃ e, g.error? (c.returned step) = some e) :
    e.isRetryable = true ↔ ∃ visit ∈ visits, Failed visit.step := by
  constructor
  · intro hretry
    -- the error is that of a visit, or that of the context, which is not worth a retry
    rcases h.failed e rfl with ⟨visit, hmem, herror⟩ | ⟨rfl, -⟩
    · obtain ⟨leaf, hin, hran⟩ := h.ran visit hmem
      exact ⟨visit, hmem, (hleaf leaf hin visit hran e herror).1 hretry⟩
    · cases hretry
  · rintro ⟨visit, hmem, hfail⟩
    obtain ⟨e', herror⟩ := hfailed visit.step hfail
    obtain ⟨leaf, hin, hran⟩ := h.ran visit hmem
    cases h.fails visit hmem e' herror
    exact (hleaf leaf hin visit hran e herror).2 hfail

/-! ## §3. The error of a fetch. -/

/-- The call was one of a store that has failed, for another reason than cancellation. -/
def FetchStep.Failed (step : FetchStep) : Prop :=
  ∃ store f, step = .read store (.ok (.error f)) ∧ ¬ f.Cancelled

namespace FetchTree

variable {ctx : Context} {owner : Owner} {template : Template} {tree : FetchTree}
  {s s' : Session} {visits : List (Visit FetchStep Session)}

/-- **Chains of fetchers change no error.** -/
theorem error_of_step {r : Result} (hruns : tree.Runs ctx owner template s visits r s')
    {visit : Visit FetchStep Session} (hmem : visit ∈ visits) {e : FetchError}
    (herror : visit.step.returned template = .error e) :
    ∃ gathered, r = .error ⟨e.source, gathered⟩ := by
  have hfails : Fetcher.gathering.error? r = some e.source :=
    hruns.account.fails visit hmem e.source (congrArg Fetcher.gathering.error? herror)
  cases r with
  | ok fetched => cases hfails
  | error e' =>
      have hsource : e'.source = e.source := Option.some.inj hfails
      exact ⟨e'.gathered, by rw [← hsource]⟩

/-- When a store fetcher fails, and how. -/
theorem retryable_of_ran {store : SecretStore} {visit : Visit FetchStep Session}
    (hran : FetchLeaf.Ran ctx owner template (.ofStore store) visit) {e : ConnectionError}
    (herror : Fetcher.gathering.error? (visit.step.returned template) = some e) :
    e.isRetryable = true ↔ visit.step.Failed := by
  unfold FetchStep.Failed
  cases hran with
  | @read _ outcome s finish changes hends =>
      -- given up, failed, or answered
      rcases outcome with e' | f | payload
      · obtain rfl := Context.eq_cancelled_of_ends hends
        cases herror
        simp [ConnectionError.isRetryable]
      · cases herror
        refine (ConnectionError.isRetryable_ofFailure .fetching f).trans
          ⟨fun hf => ⟨store, f, rfl, hf⟩, ?_⟩
        rintro ⟨_, _, ⟨⟩, hf⟩
        exact hf
      · -- an answer is an error only for a declaration that names no key
        have hresult : Fetcher.gathering.error?
            (Selection.of (payload.getD .empty) template).result = some e := herror
        unfold Selection.result at hresult
        split at hresult
        · cases hresult
          simp [ConnectionError.isRetryable]
        · split at hresult <;> cases hresult

/-- **When the error of a fetch is worth a retry.** -/
theorem retryable_iff (hover : tree.Over fun _ => True) {e : FetchError}
    (hruns : tree.Runs ctx owner template s visits (.error e) s') :
    e.source.isRetryable = true ↔ ∃ visit ∈ visits, visit.step.Failed := by
  refine Nest.Account.retryable_iff hruns.account (fun leaf hleaf visit hran e' herror => ?_) ?_
  · obtain ⟨store, rfl, -⟩ := hover leaf hleaf
    exact retryable_of_ran hran herror
  · rintro _ ⟨store, f, rfl, -⟩
    exact ⟨_, rfl⟩

end FetchTree

/-! ## §4. The error of a publish. -/

/-- The call was one of a store that has failed, for another reason than cancellation. -/
def PublishStep.Failed (step : PublishStep) : Prop :=
  ∃ store allowlist f, step = .wrote store allowlist (.ok (.error f)) ∧ ¬ f.Cancelled

namespace PublishTree

variable {ctx : Context} {owner : Owner} {details : Details} {tree : PublishTree}
  {s s' : Session} {visits : List (Visit PublishStep Session)}

/-- **Chains of publishers change no error.** -/
theorem error_of_step {r : Result} (hruns : tree.Runs ctx owner details s visits r s')
    {visit : Visit PublishStep Session} (hmem : visit ∈ visits) {e : PublishError}
    (herror : visit.step.returned = .error e) :
    ∃ published, r = .error ⟨e.source, published⟩ := by
  have hfails : Publisher.gathering.error? r = some e.source :=
    hruns.account.fails visit hmem e.source (congrArg Publisher.gathering.error? herror)
  cases r with
  | ok published => cases hfails
  | error e' =>
      have hsource : e'.source = e.source := Option.some.inj hfails
      exact ⟨e'.published, by rw [← hsource]⟩

/-- When a store publisher fails, and how. -/
theorem retryable_of_ran {store : SecretStore} {allowlist : Allowlist}
    {visit : Visit PublishStep Session}
    (hran : PublishLeaf.Ran ctx owner details (.ofStore store allowlist) visit)
    {e : ConnectionError}
    (herror : Publisher.gathering.error? visit.step.returned = some e) :
    e.isRetryable = true ↔ visit.step.Failed := by
  unfold PublishStep.Failed
  cases hran with
  | unwanted hnone => cases herror
  | @wrote _ _ outcome s finish changes d hdestination hends =>
      rcases outcome with e' | f | _
      · obtain rfl := Context.eq_cancelled_of_ends hends
        cases herror
        simp [ConnectionError.isRetryable]
      · cases herror
        refine (ConnectionError.isRetryable_ofFailure .publishing f).trans
          ⟨fun hf => ⟨store, allowlist, f, rfl, hf⟩, ?_⟩
        rintro ⟨_, _, _, ⟨⟩, hf⟩
        exact hf
      · cases herror

/-- **When the error of a publish is worth a retry.** -/
theorem retryable_iff (hover : tree.Over fun _ => True) {e : PublishError}
    (hruns : tree.Runs ctx owner details s visits (.error e) s') :
    e.source.isRetryable = true ↔ ∃ visit ∈ visits, visit.step.Failed := by
  refine Nest.Account.retryable_iff hruns.account (fun leaf hleaf visit hran e' herror => ?_) ?_
  · obtain ⟨store, allowlist, rfl, -⟩ := hover leaf hleaf
    exact retryable_of_ran hran herror
  · rintro _ ⟨store, allowlist, f, rfl, -⟩
    exact ⟨_, rfl⟩

end PublishTree

/-! ## §5. The error of configuring. -/

/-- A call that would end alike with any updater has not met a failure of one. -/
theorem Configurator.not_retryable_of_idle {ctx : Context} {composition : CompositionSpec}
    {st : Session × Resource} {e : ConnectionError}
    (h : ∀ updater, configure updater ctx composition st = .done (.error e) st) :
    e.isRetryable = false := by
  have hcall := h fun _ => Task.hang
  -- along the exits of `configure`: mismatch, no store, a destination, a cancelled context
  cases htype : composition.appliesTo st.2.type with
  | false =>
      unfold configure at hcall
      simp only [Task.bind_apply, CompositeTask.composite, Progress.bind, htype, Bool.not_false,
        if_true] at hcall
      injection hcall with herror
      cases herror
      rfl
  | true =>
      by_cases hsettled : composition.defaultStore = none ∨ st.2.destination ≠ none
      · rw [configure_of_settled htype hsettled] at hcall
        injection hcall with herror
        cases herror
      · obtain ⟨hstore, hnone⟩ := not_or.1 hsettled
        obtain ⟨store, hstore⟩ := Option.ne_none_iff_exists'.1 hstore
        have hnone : st.2.destination = none := Classical.not_not.1 hnone
        cases hactive : ctx.isCancelled st with
        | false =>
            rw [configure_of_unset hstore htype hnone hactive] at hcall
            exact absurd hcall (persist_hang hactive)
        | true =>
            unfold configure at hcall
            simp [CompositeTask.composite, Progress.bind, htype, hstore, hnone,
              Context.ensureActive, hactive] at hcall
            rw [← hcall]
            rfl

/-- The updater was called and has failed, for another reason than cancellation. -/
def Call.Failed (call : Call) : Prop :=
  ∃ w f, call.update = some w ∧ w.outcome = .ok (.error f) ∧ ¬ f.Cancelled

namespace Call

variable {updater : Updater} {call : Call}

/-- What a call returns whose updater has failed. -/
theorem Made.result_of_failure (h : call.Made updater) {w : UpdaterRun} {f : Failure}
    (hupdate : call.update = some w) (hfailure : w.outcome = .ok (.error f)) :
    call.result = .error (.ofFailure .updateComposite f) := by
  rcases h.went with ⟨⟨hnone, -, -⟩, -⟩ | ⟨w', store, hsome, -, -, -, -, -, hresult, -⟩
  · rw [hnone] at hupdate
    cases hupdate
  · rw [hsome] at hupdate
    cases hupdate
    rw [hresult, hfailure]
    rfl

/-- **When the error of configuring is worth a retry.** -/
theorem Made.retryable_iff (h : call.Made updater) {e : ConnectionError}
    (herror : call.result = .error e) : e.isRetryable = true ↔ call.Failed := by
  unfold Failed
  rcases h.went with ⟨⟨hnone, -, hcall⟩, -⟩ | ⟨w, store, hsome, -, -, -, -, hrun, hresult, -⟩
  · rw [herror] at hcall
    rw [Configurator.not_retryable_of_idle hcall, hnone]
    simp
  · rw [herror] at hresult
    rcases houtcome : w.outcome with e' | f | _
    · rw [houtcome] at hrun hresult
      obtain rfl := Context.eq_cancelled_of_ends hrun
      cases hresult
      simp [ConnectionError.isRetryable, hsome, houtcome]
    · rw [houtcome] at hresult
      cases hresult
      refine (ConnectionError.isRetryable_ofFailure .configuring f).trans
        ⟨fun hf => ⟨w, f, hsome, houtcome, hf⟩, ?_⟩
      rintro ⟨w', f', hsome', houtcome', hf⟩
      cases hsome.symm.trans hsome'
      cases houtcome.symm.trans houtcome'
      exact hf
    · rw [houtcome] at hresult
      cases hresult

end Call

/-! ## §6. Errors keep their class. -/

/-- What the result of a fetch tells of its calls. -/
structure FetchTree.ErrorTells (template : Template) (tree : FetchTree)
    (visits : List (Visit FetchStep Session)) (r : Result) : Prop where
  /-- The failure of a store surfaces as its error. -/
  surfaces : ∀ visit ∈ visits, ∀ store f, visit.step = .read store (.ok (.error f)) →
    ∃ gathered, r = .error ⟨.ofFailure .fetchSecret f, gathered⟩
  /-- Whatever the leaves are, the error of one of them is the error of the tree. -/
  unchanged : ∀ visit ∈ visits, ∀ e, visit.step.returned template = .error e →
    ∃ gathered, r = .error ⟨e.source, gathered⟩
  retryable : tree.Over (fun _ => True) → ∀ e, r = .error e →
    (e.source.isRetryable = true ↔ ∃ visit ∈ visits, visit.step.Failed)

theorem FetchTree.errorTells {ctx : Context} {owner : Owner} {template : Template}
    {tree : FetchTree} {s s' : Session} {visits : List (Visit FetchStep Session)} {r : Result}
    (hruns : tree.Runs ctx owner template s visits r s') :
    tree.ErrorTells template visits r where
  surfaces visit hmem store f hstep := by
    refine error_of_step hruns hmem (e := ⟨.ofFailure .fetchSecret f, none⟩) ?_
    rw [hstep]
    rfl
  unchanged visit hmem e herror := error_of_step hruns hmem herror
  retryable hover e herror := by
    rw [herror] at hruns
    exact retryable_iff hover hruns

/-- What the result of a publish tells of its calls. -/
structure PublishTree.ErrorTells (tree : PublishTree) (visits : List (Visit PublishStep Session))
    (r : Result) : Prop where
  /-- The failure of a store surfaces as its error. -/
  surfaces : ∀ visit ∈ visits, ∀ store allowlist f,
    visit.step = .wrote store allowlist (.ok (.error f)) →
    ∃ published, r = .error ⟨.ofFailure .publish f, published⟩
  /-- Whatever the leaves are, the error of one of them is the error of the tree. -/
  unchanged : ∀ visit ∈ visits, ∀ e, visit.step.returned = .error e →
    ∃ published, r = .error ⟨e.source, published⟩
  retryable : tree.Over (fun _ => True) → ∀ e, r = .error e →
    (e.source.isRetryable = true ↔ ∃ visit ∈ visits, visit.step.Failed)

theorem PublishTree.errorTells {ctx : Context} {owner : Owner} {details : Details}
    {tree : PublishTree} {s s' : Session} {visits : List (Visit PublishStep Session)} {r : Result}
    (hruns : tree.Runs ctx owner details s visits r s') : tree.ErrorTells visits r where
  surfaces visit hmem store allowlist f hstep := by
    refine error_of_step hruns hmem (e := ⟨.ofFailure .publish f, false⟩) ?_
    rw [hstep]
    rfl
  unchanged visit hmem e herror := error_of_step hruns hmem herror
  retryable hover e herror := by
    rw [herror] at hruns
    exact retryable_iff hover hruns

/-- What the result of configuring tells of the updater. -/
structure Call.ErrorTells (call : Call) : Prop where
  /-- The failure of the updater surfaces as its error. -/
  surfaces : ∀ w f, call.update = some w → w.outcome = .ok (.error f) →
    call.result = .error (.ofFailure .updateComposite f)
  retryable : ∀ e, call.result = .error e → (e.isRetryable = true ↔ call.Failed)

/-- **Errors keep their class on the way up.** A failure is a root within contexts.  It
surfaces as the Cancelled error exactly if that is the root; any other failure is wrapped in
the error of the operation, whose text is followed by the outermost context, or by the text
of the root if there is none, and which is worth a retry.  In every nest of chains the error
of a leaf is that of the whole, so over stores a fetch or a publish that ends with an error,
whatever others do meanwhile, is worth a retry exactly if one of its stores has failed for
another reason than cancellation, and so it is with configuring and its updater.  No error is
a cancellation and worth a retry. -/
theorem errors_keep_their_class :
    (∀ f : Failure, ∃ (root : Failure) (contexts : List String),
        root.IsRoot ∧ f = root.within contexts)
      ∧ (∀ (kind : ErrorKind) (root : Failure) (contexts : List String), root.IsRoot →
          (ConnectionError.ofFailure kind.wrap (root.within contexts) = .cancelled
              ↔ root = .relay .cancelled)
          ∧ (root ≠ .relay .cancelled →
            ConnectionError.ofFailure kind.wrap (root.within contexts)
                = kind.wrap (root.within contexts)
              ∧ (ConnectionError.ofFailure kind.wrap (root.within contexts)).message
                = kind.heading ++ contexts.getLast?.getD root.message
              ∧ (ConnectionError.ofFailure kind.wrap (root.within contexts)).isRetryable = true))
      ∧ (∀ (tree : FetchTree) ctx owner template s changes r s',
          (tree.fetcher ctx owner template s).Ends changes r s' →
          (∃ visits, tree.Runs ctx owner template s visits r s'
              ∧ changes = visits.flatMap Visit.changes)
          ∧ ∀ visits, tree.Runs ctx owner template s visits r s' →
              tree.ErrorTells template visits r)
      ∧ (∀ (tree : PublishTree) ctx owner details s changes r s',
          (tree.publisher ctx owner details s).Ends changes r s' →
          (∃ visits, tree.Runs ctx owner details s visits r s'
              ∧ changes = visits.flatMap Visit.changes)
          ∧ ∀ visits, tree.Runs ctx owner details s visits r s' → tree.ErrorTells visits r)
      ∧ (∀ updater ctx composition before changes result after,
          (Configurator.configure updater ctx composition before).Ends changes result after →
          CompositeTask.LeftAlone changes →
          (∃ update, Call.Made updater ⟨ctx, composition, before, changes, update, result, after⟩)
          ∧ ∀ update,
              Call.Made updater ⟨ctx, composition, before, changes, update, result, after⟩ →
              Call.ErrorTells ⟨ctx, composition, before, changes, update, result, after⟩)
      ∧ ∀ e : ConnectionError, ¬ (e.isRetryable = true ∧ e.isCancelled = true) := by
  refine ⟨Failure.exists_root,
    fun kind root contexts hroot => ConnectionError.ofFailure_within kind hroot contexts,
    fun tree ctx owner template s changes r s' hends =>
      ⟨FetchTree.ends_iff.1 hends, fun visits hruns => FetchTree.errorTells hruns⟩,
    fun tree ctx owner details s changes r s' hends =>
      ⟨PublishTree.ends_iff.1 hends, fun visits hruns => PublishTree.errorTells hruns⟩,
    fun updater ctx composition before changes result after hends halone =>
      ⟨Configurator.exists_made hends halone, fun update hmade => ?_⟩,
    ConnectionError.not_retryable_and_cancelled⟩
  exact ⟨fun w f => hmade.result_of_failure, fun e => hmade.retryable_iff⟩

namespace Sample

/-- A read that has timed out. -/
def timedOut : Failure := (Failure.plain "timeout").within ["GET failed", "cannot read secret"]

/-- A write that was cancelled. -/
def givenUp : Failure := (Failure.relay .cancelled).within ["PUT failed", "cannot write secret"]

/-- A store that is out of order. -/
def broken : SecretStore where
  read _ _ := pure (.error timedOut)
  write _ _ _ := pure (.error givenUp)

/-- A chain in a chain over the store that is out of order. -/
def fetchBroken : FetchTree := .chain [.chain [.ofStore broken], .leaf fun _ _ _ => Task.hang]

/-- A chain over the store that is out of order. -/
def publishBroken : PublishTree := .chain [.ofStore broken {}]

/-- An updater that meets a conflict. -/
def refused : Updater := fun _ => pure (.error (.plain "conflict"))

/-- An owner that wants its details published. -/
def wanting : Owner := ⟨"db", none, some (.inStore "conn" "default")⟩

end Sample

open Sample in
theorem timeout_and_cancellation_told_apart :
    (ConnectionError.ofFailure ErrorKind.fetching.wrap timedOut).message
        = "cannot fetch connection secret: " ++ "cannot read secret"
      ∧ ConnectionError.ofFailure ErrorKind.publishing.wrap givenUp = .cancelled
      ∧ (∃ s' visits, fetchBroken.Runs ⟨[]⟩ wanting {} {} visits
            (.error ⟨.fetchSecret timedOut, some .empty⟩) s'
          ∧ fetchBroken.ErrorTells {} visits (.error ⟨.fetchSecret timedOut, some .empty⟩))
      ∧ (∃ s' visits, publishBroken.Runs ⟨[]⟩ wanting .empty {} visits
            (.error ⟨.cancelled, false⟩) s' ∧ ¬ ∃ visit ∈ visits, visit.step.Failed)
      ∧ ∃ call, Call.Made refused call ∧ call.Failed
          ∧ call.result = .error (.updateComposite (.plain "conflict")) := by
  obtain ⟨-, hfailure, hfetch, hpublish, hconfigure, -⟩ := errors_keep_their_class
  have hover : publishBroken.Over fun _ => True :=
    List.forall_mem_singleton.2 ⟨broken, {}, rfl, trivial⟩
  refine ⟨?_, ?_, ?_, ?_, ?_⟩
  · exact ((hfailure .fetching (.plain "timeout") ["GET failed", "cannot read secret"] trivial).2
      (by rintro ⟨⟩)).2.1
  · exact (hfailure .publishing (.relay .cancelled) ["PUT failed", "cannot write secret"]
      trivial).1.2 rfl
  · obtain ⟨⟨visits, hruns, -⟩, htells⟩ :=
      hfetch fetchBroken ⟨[]⟩ wanting {} {} [] _ _ (.done _ _)
    exact ⟨_, visits, hruns, htells visits hruns⟩
  · obtain ⟨⟨visits, hruns, -⟩, htells⟩ :=
      hpublish publishBroken ⟨[]⟩ wanting .empty {} [] _ _ (.done _ _)
    refine ⟨_, visits, hruns, fun hfailed => ?_⟩
    cases ((htells visits hruns).retryable hover _ rfl).2 hfailed
  · obtain ⟨⟨update, hmade⟩, htells⟩ :=
      hconfigure refused ⟨[]⟩ composition ({}, composite) [] _ _ (.done _ _)
        (List.forall_mem_nil _)
    exact ⟨_, hmade, ((htells update hmade).retryable _ rfl).1 rfl, rfl⟩

end ConnectionRelay
