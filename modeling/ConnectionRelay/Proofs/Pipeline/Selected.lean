/-
  ConnectionRelay.Proofs.Pipeline.Selected
  ────────────────────────────────────────
  **WHAT IS FETCHED FROM A STORE, KEY BY KEY.**

  The fetcher of a store follows the declarations of a template one after the other.  Here
  it is said what comes of that without following them: which templates are refused, and
  of each key whether it is among the details, with which value, and on which declaration's
  account.  Main statements:

    • `Declaration.ofType_iff` — the type that a declaration is treated as,
    • `Template.lastValue_contributions_iff` — the last declaration that has a value decides,
    • `fetched_as_declared` — what the fetcher of a store returns under an active context.
-/
import ConnectionRelay.Proofs.Chains.Leaves

namespace ConnectionRelay

/-! ## §1. Types of declarations. -/

namespace Declaration

/-- The source that a type stands for is set. -/
def Sets (d : Declaration) : DetailType → Prop
  | .fromConnectionSecretKey => d.secretKey ≠ none
  | .fromFieldPath => d.fieldPath ≠ none
  | .fromValue => d.value ≠ none
  | .unknown => False

/-- The type that a declaration is treated as. -/
inductive OfType (d : Declaration) : DetailType → Prop where
  | explicit {t : DetailType} (htype : d.type = some t) : OfType d t
  /-- No type is given, and one source is set. -/
  | only {t : DetailType} (htype : d.type = none) (hsets : d.Sets t)
      (honly : ∀ u, d.Sets u → u = t) : OfType d t
  /-- No type is given, and no source is set, or several are. -/
  | undecided (htype : d.type = none) (hothers : ∀ t, d.Sets t → ∃ u, d.Sets u ∧ u ≠ t) :
      OfType d .unknown

variable {d : Declaration} {t u : DetailType}

theorem mem_sources : t ∈ d.sources ↔ d.Sets t := by
  unfold sources Sets
  cases t <;> simp [Option.isSome_iff_ne_none]

theorem nodup_sources (d : Declaration) : d.sources.Nodup := by
  unfold sources
  cases d.value <;> cases d.secretKey <;> cases d.fieldPath <;> simp

theorem ofType_effectiveType (d : Declaration) : d.OfType d.effectiveType := by
  unfold effectiveType
  cases htype : d.type with
  | some t => exact .explicit htype
  | none =>
      have hmem : ∀ t, d.Sets t ↔ t ∈ d.sources := fun t => mem_sources.symm
      have hnodup := d.nodup_sources
      -- the sources that are set are none, one, or two and more
      generalize d.sources = sources at hmem hnodup
      rcases sources with _ | ⟨t, _ | ⟨u, rest⟩⟩
      · exact .undecided htype fun t ht => by cases (hmem t).1 ht
      · exact .only htype ((hmem t).2 (List.mem_singleton_self t))
          fun u hu => List.mem_singleton.1 ((hmem u).1 hu)
      · refine .undecided htype fun x _ => ?_
        have hne : u ≠ t := by
          rintro rfl
          exact (List.nodup_cons.1 hnodup).1 List.mem_cons_self
        by_cases hx : x = t
        · exact ⟨u, (hmem u).2 (List.mem_cons_of_mem _ List.mem_cons_self), hx ▸ hne⟩
        · exact ⟨t, (hmem t).2 List.mem_cons_self, fun h => hx h.symm⟩

/-- A declaration is treated as of one type. -/
theorem OfType.unique (h : d.OfType t) (h' : d.OfType u) : t = u := by
  cases h with
  | explicit htype =>
      cases h' with
      | explicit htype' => exact Option.some.inj (htype.symm.trans htype')
      | only hnone => cases htype.symm.trans hnone
      | undecided hnone => cases htype.symm.trans hnone
  | only hnone hsets honly =>
      cases h' with
      | explicit htype' => cases hnone.symm.trans htype'
      | only _ hsets' honly' => exact honly' t hsets
      | undecided _ hothers =>
          obtain ⟨x, hx, hne⟩ := hothers t hsets
          exact absurd (honly x hx) hne
  | undecided hnone hothers =>
      cases h' with
      | explicit htype' => cases hnone.symm.trans htype'
      | only _ hsets' honly' =>
          obtain ⟨x, hx, hne⟩ := hothers u hsets'
          exact absurd (honly' x hx) hne
      | undecided => rfl

theorem ofType_iff : d.OfType t ↔ d.effectiveType = t :=
  ⟨fun h => (ofType_effectiveType d).unique h, fun h => h ▸ ofType_effectiveType d⟩

/-! ## §2. What declarations pass on. -/

/-- The declaration passes a value of the payload on under a key: under its name if it has
one, and else under the key that the value has in the payload. -/
inductive Passes (payload : Details) (d : Declaration) (k : String) (v : Bytes) : Prop where
  | intro {source : String} (htype : d.OfType .fromConnectionSecretKey)
      (hsource : d.secretKey = some source)
      (hkey : d.name = some k ∨ d.name = none ∧ source = k)
      (hvalue : payload.get? source = some v)

/-- The declaration copies a key of the secret and does not say which. -/
structure Unnamed (d : Declaration) : Prop where
  type : d.OfType .fromConnectionSecretKey
  secretKey : d.secretKey = none

variable {payload : Details} {k : String} {v : Bytes}

/-- A declaration contributes what it passes on, unless the key is empty. -/
theorem contribution?_eq_some_iff :
    d.contribution? payload = some (k, v) ↔ k ≠ "" ∧ d.Passes payload k v := by
  have hkey : ∀ source, d.name.getD source = k ↔ d.name = some k ∨ d.name = none ∧ source = k := by
    intro source
    cases d.name <;> simp
  unfold contribution?
  constructor
  · intro h
    by_cases htype : d.effectiveType = .fromConnectionSecretKey
    · rw [if_pos htype] at h
      obtain ⟨source, hsource, h⟩ := Option.bind_eq_some_iff.1 h
      obtain ⟨value, hvalue, h⟩ := Option.bind_eq_some_iff.1 h
      by_cases hempty : d.name.getD source = ""
      · cases (if_pos hempty).symm.trans h
      · cases (if_neg hempty).symm.trans h
        exact ⟨hempty, ofType_iff.2 htype, hsource, (hkey source).1 rfl, hvalue⟩
    · rw [if_neg htype] at h
      cases h
  · rintro ⟨hne, htype, hsource, hname, hvalue⟩
    rw [if_pos (ofType_iff.1 htype), hsource]
    show ((payload.get? _).bind _) = _
    rw [hvalue]
    show (if d.name.getD _ = "" then none else some (d.name.getD _, v)) = _
    rw [(hkey _).2 hname, if_neg hne]

/-- What the declaration contributes under a key. -/
def contributionTo? (payload : Details) (k : String) (d : Declaration) : Option Bytes :=
  (d.contribution? payload).bind fun e => if e.1 = k then some e.2 else none

theorem contributionTo?_eq_some_iff :
    d.contributionTo? payload k = some v ↔ k ≠ "" ∧ d.Passes payload k v := by
  rw [← contribution?_eq_some_iff, contributionTo?]
  cases d.contribution? payload with
  | none => simp
  | some e =>
      obtain ⟨k', v'⟩ := e
      simp

theorem contributionTo?_eq_none_iff (hk : k ≠ "") :
    d.contributionTo? payload k = none ↔ ∀ v, ¬ d.Passes payload k v := by
  rw [Option.eq_none_iff_forall_ne_some]
  exact forall_congr' fun v =>
    not_congr (contributionTo?_eq_some_iff.trans (and_iff_right hk))

theorem copying_eq_unnamed_iff : d.copying = .unnamed ↔ d.Unnamed := by
  unfold copying
  constructor
  · intro h
    split at h
    · cases h
    · next htype hsecret => exact ⟨ofType_iff.2 htype, hsecret⟩
    · cases h
  · rintro ⟨htype, hsecret⟩
    rw [ofType_iff.1 htype, hsecret]

end Declaration

/-! ## §3. What templates declare. -/

/-- The first item decides that makes an entry with the key. -/
theorem find?_filterMap {α β : Type} (k : String) (f : β → Option (String × α)) (items : List β) :
    Entries.find? k (items.filterMap f)
      = items.findSome? fun item => (f item).bind fun e => if e.1 = k then some e.2 else none := by
  induction items with
  | nil => rfl
  | cons item rest ih =>
      rw [List.findSome?_cons, List.filterMap_cons]
      cases f item with
      | none => exact ih
      | some e =>
          obtain ⟨k', v⟩ := e
          by_cases h : k' = k
          · simp [Entries.find?, h]
          · simp [Entries.find?, h, ih]

namespace Template

/-- The template has a declaration that passes the value on under the key, and no later one
passes anything on under it. -/
def Declares (payload : Details) (t : Template) (k : String) (v : Bytes) : Prop :=
  ∃ earlier d later, t.details = earlier ++ d :: later ∧ d.Passes payload k v
    ∧ ∀ d' ∈ later, ∀ v', ¬ d'.Passes payload k v'

variable {payload : Details} {t : Template} {k : String} {v : Bytes}

/-- **The last declaration decides** among those that pass something on under a key. -/
theorem lastValue_contributions_iff :
    lastValue k (t.contributions payload) = some v ↔ k ≠ "" ∧ t.Declares payload k v := by
  have hfirst : lastValue k (t.contributions payload)
      = t.details.reverse.findSome? (Declaration.contributionTo? payload k) := by
    unfold lastValue contributions
    rw [← List.filterMap_reverse, find?_filterMap]
    rfl
  rw [hfirst, findSome?_reverse_eq_some_iff]
  constructor
  · rintro ⟨earlier, d, later, hsplit, hd, hlater⟩
    obtain ⟨hk, hd⟩ := Declaration.contributionTo?_eq_some_iff.1 hd
    exact ⟨hk, earlier, d, later, hsplit, hd, fun d' hmem =>
      (Declaration.contributionTo?_eq_none_iff hk).1 (hlater d' hmem)⟩
  · rintro ⟨hk, earlier, d, later, hsplit, hd, hlater⟩
    exact ⟨earlier, d, later, hsplit, Declaration.contributionTo?_eq_some_iff.2 ⟨hk, hd⟩,
      fun d' hmem => (Declaration.contributionTo?_eq_none_iff hk).2 (hlater d' hmem)⟩

/-- What is fetched for the template when the read of the secret gives this answer. -/
inductive Fetched (t : Template) :
    Except Failure (Option Details) → Except FetchError (Option Details) → Prop where
  /-- The read has failed. -/
  | failed (f : Failure) : Fetched t (.error f) (.error ⟨.ofFailure .fetchSecret f, none⟩)
  /-- A declaration does not say which key it copies, whatever the others yield. -/
  | unnamed {payload : Option Details} {d : Declaration} (hmem : d ∈ t.details) (hd : d.Unnamed) :
      Fetched t (.ok payload) (.error ⟨.missingKeyReference .fromConnectionSecretKey, none⟩)
  /-- Every declaration that copies a key says which. -/
  | found {payload : Option Details} {m : Details} (hnamed : ∀ d ∈ t.details, ¬ d.Unnamed)
      (hm : ∀ k v, m.get? k = some v ↔ k ≠ "" ∧ t.Declares (payload.getD .empty) k v) :
      Fetched t (.ok payload) (.ok (if m.isEmpty then none else some m))

end Template

namespace Selection

variable {payload : Details} {template : Template}

theorem unnamed_copy (s : Selection) (source target : String) :
    (s.copy payload source target).unnamed = s.unnamed := by
  unfold copy
  cases payload.get? source with
  | none => rfl
  | some value =>
      show (if target = "" then s else _).unnamed = _
      split <;> rfl

/-- A selection stops at a declaration that does not say which key it copies. -/
theorem unnamed_follow_iff {s : Selection} (hs : s.unnamed = false) (ds : List Declaration) :
    (s.follow payload ds).unnamed = true ↔ ∃ d ∈ ds, d.Unnamed := by
  -- on the declarations, with the selection general
  induction ds generalizing s with
  | nil =>
      show s.unnamed = true ↔ _
      simp [hs]
  | cons d rest ih =>
      have hd := Declaration.copying_eq_unnamed_iff (d := d)
      simp only [List.mem_cons, exists_eq_or_imp]
      unfold follow
      cases hcopying : d.copying with
      | nothing =>
          rw [hcopying] at hd
          have hnamed : ¬ d.Unnamed := fun h => Copying.noConfusion (hd.2 h)
          exact (ih hs).trans (or_iff_right hnamed).symm
      | unnamed =>
          exact iff_of_true rfl (.inl (hd.1 hcopying))
      | key source target =>
          rw [hcopying] at hd
          have hnamed : ¬ d.Unnamed := fun h => Copying.noConfusion (hd.2 h)
          exact (ih ((unnamed_copy s source target).trans hs)).trans (or_iff_right hnamed).symm

theorem unnamed_of_iff :
    (Selection.of payload template).unnamed = true ↔ ∃ d ∈ template.details, d.Unnamed :=
  unnamed_follow_iff rfl template.details

theorem result_of_unnamed {s : Selection} (h : s.unnamed = true) :
    s.result = .error ⟨.missingKeyReference .fromConnectionSecretKey, none⟩ :=
  if_pos h

theorem result_of_named {s : Selection} (h : s.unnamed = false) :
    s.result = .ok (if s.picked.isEmpty then none else some s.picked) := by
  unfold result
  rw [h, if_neg Bool.false_ne_true]
  split <;> rfl

/-- What is picked is what the template declares, if every declaration names its key. -/
theorem get?_picked_iff (hnamed : (Selection.of payload template).unnamed = false) {k : String}
    {v : Bytes} : (Selection.of payload template).picked.get? k = some v
      ↔ k ≠ "" ∧ template.Declares payload k v := by
  rw [picked_of hnamed, Dict.ofList, get?_insertMany, Dict.get?_empty, Option.or_none]
  exact Template.lastValue_contributions_iff

end Selection

/-- What is fetched is what the fetcher of a store selects. -/
theorem Template.fetched_iff {t : Template} {answer : Except Failure (Option Details)}
    {r : Except FetchError (Option Details)} :
    t.Fetched answer r ↔ r = Fetcher.selected t answer := by
  cases answer with
  | error f =>
      constructor
      · rintro ⟨_⟩
        rfl
      · rintro rfl
        exact .failed f
  | ok payload =>
      show _ ↔ r = (Selection.of (payload.getD .empty) t).result
      cases hunnamed : (Selection.of (payload.getD .empty) t).unnamed with
      | true =>
          obtain ⟨d, hmem, hd⟩ := Selection.unnamed_of_iff.1 hunnamed
          rw [Selection.result_of_unnamed hunnamed]
          constructor
          · rintro (_ | _ | ⟨hnamed, _⟩)
            · rfl
            · exact absurd hd (hnamed d hmem)
          · rintro rfl
            exact .unnamed hmem hd
      | false =>
          have hnamed : ∀ d ∈ t.details, ¬ d.Unnamed := fun d hmem hd => by
            rw [Selection.unnamed_of_iff.2 ⟨d, hmem, hd⟩] at hunnamed
            cases hunnamed
          rw [Selection.result_of_named hunnamed]
          constructor
          · rintro (_ | ⟨hmem, hd⟩ | ⟨_, hm⟩)
            · exact absurd hd (hnamed _ hmem)
            · -- a table is what it has under each key
              have hpicked : _ = (Selection.of (payload.getD .empty) t).picked :=
                Dict.ext fun k => Option.ext fun v =>
                  (hm k v).trans (Selection.get?_picked_iff hunnamed).symm
              rw [hpicked]
          · rintro rfl
            exact .found hnamed fun k v => Selection.get?_picked_iff hunnamed

/-! ## §4. The fetcher of a store. -/

/-- **Fetched as declared.**  Every answer of a store has one result for a template, and while
the context is active, a call of the fetcher of the store ends as the read of the secret does
and returns the result for its answer. -/
theorem fetched_as_declared (store : SecretStore) {ctx : Context} (owner : Owner)
    (template : Template) {s s' : Session} {changes : List (Session × Session)}
    {r : Except FetchError (Option Details)} (hs : ctx.isCancelled s = false)
    (hactive : ∀ change ∈ changes, ctx.isCancelled change.2 = false) :
    (∀ answer, ∃ result, ∀ other, template.Fetched answer other ↔ other = result)
      ∧ ((Fetcher.ofStore store ctx owner template s).Ends changes r s' ↔
        ∃ answer finish, (store.read ctx owner s).Ends changes answer finish
          ∧ template.Fetched answer r
          ∧ s' = Fetcher.concluded owner template (.ok answer) finish) := by
  refine ⟨fun answer => ⟨_, fun other => Template.fetched_iff⟩, ?_⟩
  rw [Fetcher.ofStore_eq, Progress.ends_bind_done_iff]
  simp only [Context.ends_run_iff hs hactive, Template.fetched_iff]
  constructor
  · rintro ⟨_, finish, ⟨answer, rfl, hread⟩, rfl, rfl⟩
    exact ⟨answer, finish, hread, rfl, rfl⟩
  · rintro ⟨answer, finish, hread, rfl, rfl⟩
    exact ⟨.ok answer, finish, ⟨answer, rfl, hread⟩, rfl, rfl⟩

namespace Sample

/-- The secret of a database. -/
def credentials : Details := .ofList [("username", [1]), ("password", [2])]

/-- A store that takes its time to find the secret. -/
def slowStore : SecretStore where
  read _ _ s := .paused s fun s => .done (.ok (some credentials)) s
  write _ _ _ := pure (.ok ())

/-- Two declarations for one key, and some that pass nothing on: the key is not there yet, the
name is empty, or it is not clear which source counts. -/
def loginTemplate : Template where
  details :=
    [{ name := some "login", secretKey := some "username" },
     .ofSecretKey "password" (some "login"), .ofSecretKey "token" (some "login"),
     .ofSecretKey "username" (some ""),
     { name := some "login", secretKey := some "username", value := some "admin" }]

end Sample

open Sample in
theorem later_declaration_decides :
    ∃ s', (Fetcher.ofStore slowStore ⟨[0]⟩ ⟨"db", none, none⟩ loginTemplate {}).Ends [({}, {})]
        (.ok (some (.ofList [("login", [2])]))) s'
      ∧ loginTemplate.Fetched (.ok (some credentials)) (.ok (some (.ofList [("login", [2])]))) := by
  have hfetched :
      loginTemplate.Fetched (.ok (some credentials)) (.ok (some (.ofList [("login", [2])]))) :=
    Template.fetched_iff.2 rfl
  have hread : (slowStore.read ⟨[0]⟩ ⟨"db", none, none⟩ {}).Ends [({}, {})]
      (.ok (some credentials)) {} := .paused (.done _ _)
  have hs : Context.isCancelled ⟨[0]⟩ ({} : Session) = false := by decide
  have hactive : ∀ change ∈ [(({} : Session), ({} : Session))],
      Context.isCancelled ⟨[0]⟩ change.2 = false := List.forall_mem_singleton.2 hs
  have hends := (fetched_as_declared slowStore _ loginTemplate hs hactive).2.2
    ⟨_, _, hread, hfetched, rfl⟩
  exact ⟨_, hends, hfetched⟩

end ConnectionRelay
