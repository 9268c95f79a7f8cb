/-
  ConnectionRelay.Proofs.Chains.Stopping
  ──────────────────────────────────────
  **WHERE A CHAIN STOPS, AND WHAT IT RETURNS THERE.**

  A chain calls its parts in turn.  It stops at the first part that returns an error, or
  before the first one that finds the context cancelled, and else after the last; what it
  has gathered up to there is returned with or without an error.  `StopsAt` says where and
  why, and holds for chains of fetchers and of publishers alike.  Main statements:

    • `Gathering.ends_chain_iff` — a chain ends where its calls stop,
    • `fetch_chain_returns_union` — a chain of fetchers returns the union of the details,
    • `publish_chain_returns_flag` — a chain of publishers returns whether one has published.
-/
import ConnectionRelay.Proofs.Chains.Visits
import ConnectionRelay.Proofs.Pipeline.Contributions

namespace ConnectionRelay

/-! ## §1. Calls in turn. -/

variable {ι σ ε α μ : Type} [HasTokens σ]

/-- Items are called in turn, each once and under an active context, and each returns a value. -/
inductive InTurn (ctx : Context) (call : ι → Task σ (Except ε α)) :
    List ι → σ → List (Visit α σ) → σ → Prop where
  | nil (s : σ) : InTurn ctx call [] s [] s
  | cons {item : ι} {rest : List ι} {s t s' : σ} {changes : List (σ × σ)} {a : α}
      {visits : List (Visit α σ)} (hctx : ctx.isCancelled s = false)
      (hcall : (call item s).Ends changes (.ok a) t) (hrest : InTurn ctx call rest t visits s') :
      InTurn ctx call (item :: rest) s (⟨a, s, changes, t⟩ :: visits) s'

/-- Why no further item is called. -/
inductive StopReason (ε : Type) where
  /-- There is none. -/
  | atEnd
  /-- The context is cancelled when the next one is about to be called. -/
  | cancelled
  /-- The last one that was called has returned an error. -/
  | failed (e : ε)

/-- Items are called up to the first one that finds the context cancelled or returns an
error: with these visits before it, and these changes by others during the visits and it. -/
inductive StopsAt (ctx : Context) (call : ι → Task σ (Except ε α)) (items : List ι) (s : σ) :
    List (Visit α σ) → StopReason ε → List (σ × σ) → σ → Prop where
  | atEnd {visits : List (Visit α σ)} {s' : σ} (hcalls : InTurn ctx call items s visits s') :
      StopsAt ctx call items s visits .atEnd (visits.flatMap Visit.changes) s'
  | cancelled {before later : List ι} {item : ι} {visits : List (Visit α σ)} {s' : σ}
      (hitems : items = before ++ item :: later) (hcalls : InTurn ctx call before s visits s')
      (hctx : ctx.isCancelled s' = true) :
      StopsAt ctx call items s visits .cancelled (visits.flatMap Visit.changes) s'
  | failed {before later : List ι} {item : ι} {visits : List (Visit α σ)} {t s' : σ}
      {changes : List (σ × σ)} {e : ε} (hitems : items = before ++ item :: later)
      (hcalls : InTurn ctx call before s visits t) (hctx : ctx.isCancelled t = false)
      (hcall : (call item t).Ends changes (.error e) s') :
      StopsAt ctx call items s visits (.failed e) (visits.flatMap Visit.changes ++ changes) s'

variable {ctx : Context} {call : ι → Task σ (Except ε α)} {item : ι} {items rest : List ι}
  {s s' : σ} {visits : List (Visit α σ)} {stop : StopReason ε} {changes : List (σ × σ)}

theorem InTurn.length_eq (h : InTurn ctx call items s visits s') :
    visits.length = items.length := by
  induction h with
  | nil => rfl
  | cons _ _ _ ih => rw [List.length_cons, List.length_cons, ih]

/-- Nothing is called under a cancelled context. -/
theorem InTurn.of_cancelled (h : InTurn ctx call items s visits s')
    (hctx : ctx.isCancelled s = true) : items = [] ∧ visits = [] ∧ s' = s := by
  cases h with
  | nil => exact ⟨rfl, rfl, rfl⟩
  | cons hactive =>
      rw [hctx] at hactive
      cases hactive

namespace StopsAt

theorem nil_iff :
    StopsAt ctx call [] s visits stop changes s'
      ↔ visits = [] ∧ stop = .atEnd ∧ changes = [] ∧ s' = s := by
  constructor
  · intro h
    cases h with
    | atEnd hcalls =>
        cases hcalls
        exact ⟨rfl, rfl, rfl, rfl⟩
    | cancelled hitems => simp at hitems
    | failed hitems => simp at hitems
  · rintro ⟨rfl, rfl, rfl, rfl⟩
    exact .atEnd (.nil s')

/-- A cancelled context keeps the first item from being called. -/
theorem cons_iff_of_cancelled (hctx : ctx.isCancelled s = true) :
    StopsAt ctx call (item :: rest) s visits stop changes s'
      ↔ visits = [] ∧ stop = .cancelled ∧ changes = [] ∧ s' = s := by
  constructor
  · intro h
    cases h with
    | atEnd hcalls => cases (hcalls.of_cancelled hctx).1
    | cancelled _ hcalls =>
        obtain ⟨-, rfl, rfl⟩ := hcalls.of_cancelled hctx
        exact ⟨rfl, rfl, rfl, rfl⟩
    | failed _ hcalls hactive =>
        obtain ⟨-, rfl, rfl⟩ := hcalls.of_cancelled hctx
        rw [hctx] at hactive
        cases hactive
  · rintro ⟨rfl, rfl, rfl, rfl⟩
    exact .cancelled (List.nil_append _).symm (.nil s') hctx

/-- A first item that returns a value is followed by the rest. -/
theorem of_ok {t : σ} {earlier : List (σ × σ)} {a : α} (hctx : ctx.isCancelled s = false)
    (hcall : (call item s).Ends earlier (.ok a) t)
    (hrest : StopsAt ctx call rest t visits stop changes s') :
    StopsAt ctx call (item :: rest) s (⟨a, s, earlier, t⟩ :: visits) stop (earlier ++ changes)
      s' := by
  cases hrest with
  | atEnd hcalls => exact .atEnd (.cons hctx hcall hcalls)
  | cancelled hitems hcalls hcancelled =>
      exact .cancelled (congrArg (item :: ·) hitems) (.cons hctx hcall hcalls) hcancelled
  | failed hitems hcalls hactive hfailed =>
      rw [← List.append_assoc]
      exact .failed (congrArg (item :: ·) hitems) (.cons hctx hcall hcalls) hactive hfailed

/-- Under an active context the first item is called, and what it returns tells how to go on. -/
theorem cons_iff (hctx : ctx.isCancelled s = false) :
    StopsAt ctx call (item :: rest) s visits stop changes s' ↔
      (∃ e, stop = .failed e ∧ visits = [] ∧ (call item s).Ends changes (.error e) s')
        ∨ ∃ a earlier t later others, (call item s).Ends earlier (.ok a) t
            ∧ StopsAt ctx call rest t others stop later s'
            ∧ visits = ⟨a, s, earlier, t⟩ :: others ∧ changes = earlier ++ later := by
  constructor
  · intro h
    cases h with
    | atEnd hcalls =>
        cases hcalls with
        | cons _ hcall hrest => exact .inr ⟨_, _, _, _, _, hcall, .atEnd hrest, rfl, rfl⟩
    | cancelled hitems hcalls hcancelled =>
        cases hcalls with
        | nil => exact absurd hcancelled (by rw [hctx]; decide)
        | cons _ hcall hrest =>
            cases hitems
            exact .inr ⟨_, _, _, _, _, hcall, .cancelled rfl hrest hcancelled, rfl, rfl⟩
    | failed hitems hcalls hactive hfailed =>
        cases hcalls with
        | nil =>
            cases hitems
            exact .inl ⟨_, rfl, rfl, hfailed⟩
        | cons _ hcall hrest =>
            cases hitems
            exact .inr ⟨_, _, _, _, _, hcall, .failed rfl hrest hactive hfailed, rfl,
              List.append_assoc _ _ _⟩
  · rintro (⟨e, rfl, rfl, hfailed⟩ | ⟨a, earlier, t, later, others, hcall, hrest, rfl, rfl⟩)
    · exact .failed (List.nil_append _).symm (.nil s) hctx hfailed
    · exact hrest.of_ok hctx hcall

/-- What comes after the item at which the calls stop does not matter. -/
theorem congr_later (h : StopsAt ctx call items s visits stop changes s') (hstop : stop ≠ .atEnd)
    (later : List ι) :
    StopsAt ctx call (items.take (visits.length + 1) ++ later) s visits stop changes s' := by
  have htake : ∀ {before others : List ι} {item : ι}, visits.length = before.length →
      (before ++ item :: others).take (visits.length + 1) ++ later = before ++ item :: later := by
    intro before others item hlength
    rw [hlength, List.take_length_add_append]
    simp
  cases h with
  | atEnd => exact absurd rfl hstop
  | cancelled hitems hcalls hcancelled =>
      rw [hitems, htake hcalls.length_eq]
      exact .cancelled rfl hcalls hcancelled
  | failed hitems hcalls hactive hfailed =>
      rw [hitems, htake hcalls.length_eq]
      exact .failed rfl hcalls hactive hfailed

end StopsAt

/-! ## §2. Chains. -/

namespace Gathering

/-- An error returned by a part is one to the chain, and a value is none. -/
structure Judges (g : Gathering (Except ε α) μ) (source : ε → ConnectionError) : Prop where
  ok : ∀ a, g.error? (.ok a) = none
  error : ∀ e, g.error? (.error e) = some (source e)

variable (g : Gathering (Except ε α) μ) (source : ε → ConnectionError)

/-- What a chain returns that has gathered something from the parts that returned a value. -/
def stopped (gathered : μ) : StopReason ε → Except ε α
  | .atEnd => g.result none gathered
  | .cancelled => g.result (some .cancelled) gathered
  | .failed e => g.result (some (source e)) (g.add gathered (g.brings (.error e)))

variable {g source} {gathered : μ}

theorem goOn_ok (hg : g.Judges source) (parts : List (Task σ (Except ε α))) (a : α) :
    g.goOn ctx.look parts (g.onTop gathered (.ok a))
      = g.chainFrom ctx.look (g.add gathered (g.brings (.ok a))) parts := by
  rw [g.goOn_of_ok ctx.look ((g.error?_onTop _ _).trans (hg.ok a)), g.brings_onTop]

theorem goOn_error (hg : g.Judges source) (parts : List (Task σ (Except ε α))) (e : ε) :
    g.goOn ctx.look parts (g.onTop gathered (.error e))
      = pure (g.stopped source gathered (.failed e)) := by
  rw [g.goOn_of_error ctx.look ((g.error?_onTop _ _).trans (hg.error e)), onTop, hg.error]
  rfl

omit [HasTokens σ] in
/-- What the first part brings lies under what the rest brings. -/
theorem add_sum_cons (visit : Visit α σ) (visits : List (Visit α σ)) :
    g.add gathered (g.sum Except.ok (visit :: visits))
      = g.add (g.add gathered (g.brings (.ok visit.step))) (g.sum Except.ok visits) :=
  (g.add_assoc _ _ _).symm

omit [HasTokens σ] in
/-- A chain that stops at once has gathered nothing more. -/
theorem ends_stopped_iff (first : StopReason ε) {r : Except ε α} :
    (Progress.done (g.stopped source gathered first) s).Ends changes r s' ↔
      ∃ (visits : List (Visit α σ)) (stop : StopReason ε),
        (visits = [] ∧ stop = first ∧ changes = [] ∧ s' = s)
          ∧ r = g.stopped source (g.add gathered (g.sum .ok visits)) stop := by
  rw [Progress.ends_done_iff]
  constructor
  · rintro ⟨rfl, rfl, rfl⟩
    refine ⟨[], first, ⟨rfl, rfl, rfl, rfl⟩, ?_⟩
    rw [sum, g.add_nothing]
  · rintro ⟨_, _, ⟨rfl, rfl, rfl, rfl⟩, rfl⟩
    rw [sum, g.add_nothing]
    exact ⟨rfl, rfl, rfl⟩

/-- A chain that has gathered something ends where its calls stop. -/
theorem ends_chainFrom_iff (hg : g.Judges source) {r : Except ε α} :
    (g.chainFrom ctx.look gathered (items.map call) s).Ends changes r s' ↔
      ∃ visits stop, StopsAt ctx call items s visits stop changes s'
        ∧ r = g.stopped source (g.add gathered (g.sum .ok visits)) stop := by
  -- on the items, with what is gathered, the state and the result general
  induction items generalizing gathered s changes r with
  | nil =>
      simp only [StopsAt.nil_iff]
      exact ends_stopped_iff .atEnd
  | cons item rest ih =>
      rw [List.map_cons, g.chainFrom_apply]
      cases hctx : ctx.isCancelled s with
      | true =>
          rw [if_pos rfl]
          simp only [StopsAt.cons_iff_of_cancelled hctx]
          exact ends_stopped_iff .cancelled
      | false =>
          rw [if_neg Bool.false_ne_true]
          refine Progress.ends_bind_iff.trans ?_
          simp only [StopsAt.cons_iff hctx]
          constructor
          · rintro ⟨earlier, later, r₁, t, rfl, hcall, hgo⟩
            cases r₁ with
            | ok a =>
                rw [goOn_ok hg] at hgo
                obtain ⟨others, stop, hrest, rfl⟩ := ih.1 hgo
                rw [← add_sum_cons ⟨a, s, earlier, t⟩]
                exact ⟨_, stop, .inr ⟨a, earlier, t, later, others, hcall, hrest, rfl, rfl⟩, rfl⟩
            | error e =>
                rw [goOn_error hg] at hgo
                obtain ⟨rfl, rfl, rfl⟩ := Progress.ends_done_iff.1 hgo
                rw [List.append_nil]
                refine ⟨[], .failed e, .inl ⟨e, rfl, rfl, hcall⟩, ?_⟩
                rw [sum, g.add_nothing]
          · rintro ⟨visits, stop, ⟨e, rfl, rfl, hfailed⟩
              | ⟨a, earlier, t, later, others, hcall, hrest, rfl, rfl⟩, rfl⟩
            · refine ⟨changes, [], _, s', (List.append_nil _).symm, hfailed, ?_⟩
              rw [goOn_error hg, sum, g.add_nothing]
              exact .done _ _
            · refine ⟨earlier, later, _, t, rfl, hcall, ?_⟩
              rw [goOn_ok hg, add_sum_cons]
              exact ih.2 ⟨others, stop, hrest, rfl⟩

/-- **A chain ends where its calls stop.** -/
theorem ends_chain_iff (hg : g.Judges source) {r : Except ε α} :
    (g.chain ctx.look (items.map call) s).Ends changes r s' ↔
      ∃ visits stop, StopsAt ctx call items s visits stop changes s'
        ∧ r = g.stopped source (g.sum .ok visits) stop := by
  unfold chain
  rw [ends_chainFrom_iff hg]
  simp only [g.nothing_add]

/-- What comes after the part at which a chain stops does not matter. -/
theorem ends_chain_congr_later (hg : g.Judges source) {r : Except ε α}
    (h : StopsAt ctx call items s visits stop changes s') (hstop : stop ≠ .atEnd)
    (later : List ι) :
    (g.chain ctx.look ((items.take (visits.length + 1) ++ later).map call) s).Ends changes r s'
      ↔ (g.chain ctx.look (items.map call) s).Ends changes r s' := by
  have hends : (g.chain ctx.look (items.map call) s).Ends changes _ s' :=
    (ends_chain_iff hg).2 ⟨visits, stop, h, rfl⟩
  have hothers : (g.chain ctx.look ((items.take (visits.length + 1) ++ later).map call) s).Ends
      changes _ s' :=
    (ends_chain_iff hg).2 ⟨visits, stop, h.congr_later hstop later, rfl⟩
  -- both end with what the visits have brought, and with nothing else
  constructor
  · intro hr
    obtain ⟨rfl, -⟩ := hothers.unique hr
    exact hends
  · intro hr
    obtain ⟨rfl, -⟩ := hends.unique hr
    exact hothers

end Gathering

/-! ## §3. Chains of fetchers. -/

/-- The table has a value under a key exactly if one of the tables has it, and no later one
has the key. -/
def Details.IsUnion (ds : List Details) (d : Details) : Prop :=
  ∀ k v, d.get? k = some v ↔ ∃ earlier d' later, ds = earlier ++ d' :: later
    ∧ d'.get? k = some v ∧ ∀ d'' ∈ later, d''.get? k = none

theorem Details.isUnion_iff {ds : List Details} {d : Details} :
    IsUnion ds d ↔ ∀ k, d.get? k = ds.reverse.findSome? (·.get? k) := by
  unfold IsUnion
  refine forall_congr' fun k => ?_
  simp only [← findSome?_reverse_eq_some_iff]
  exact ⟨Option.ext, fun h v => h ▸ Iff.rfl⟩

/-- Tables have one union. -/
theorem Details.IsUnion.exists_iff {ds : List Details} {d : Details} (h : IsUnion ds d)
    (p : Details → Prop) : (∃ d', IsUnion ds d' ∧ p d') ↔ p d := by
  constructor
  · rintro ⟨d', h', hp⟩
    have heq : d' = d :=
      Dict.ext fun k => (isUnion_iff.1 h' k).trans (isUnion_iff.1 h k).symm
    exact heq ▸ hp
  · exact fun hp => ⟨d, h, hp⟩

namespace Fetcher

variable {fetchers : List Fetcher} {owner : Owner} {template : Template}

theorem judges_gathering : gathering.Judges FetchError.source := ⟨fun _ => rfl, fun _ => rfl⟩

/-- What fetchers bring is the union of what they return, also on top of an error. -/
theorem isUnion_sum (visits : List (Visit (Option Details) Session)) :
    Details.IsUnion (visits.filterMap Visit.step) (gathering.sum .ok visits) := by
  rw [Details.isUnion_iff]
  intro k
  induction visits with
  | nil => rfl
  | cons visit rest ih =>
      show ((gathering.brings (.ok visit.step)).merge (gathering.sum .ok rest)).get? k = _
      rw [Dict.get?_merge, ih, List.filterMap_cons]
      cases hstep : visit.step with
      | none => exact Option.or_none
      | some d =>
          rw [List.reverse_cons, List.findSome?_append]
          congr 1
          exact (List.findSome?_singleton).symm

/-- What is returned with an error lies on top. -/
theorem isUnion_add {ds : List Details} {d : Details} (h : Details.IsUnion ds d) (e : FetchError) :
    Details.IsUnion (ds ++ e.gathered.toList) (gathering.add d (gathering.brings (.error e))) := by
  rw [Details.isUnion_iff] at h ⊢
  intro k
  show (d.merge (e.gathered.getD .empty)).get? k = _
  rw [Dict.get?_merge, h k, List.reverse_append, List.findSome?_append]
  congr 1
  cases e.gathered with
  | none => rfl
  | some more => exact (List.findSome?_singleton).symm

theorem chain_eq (ctx : Context) (fetchers : List Fetcher) :
    chain fetchers ctx owner template
      = gathering.chain ctx.look (fetchers.map fun f => f ctx owner template) :=
  chainFrom_eq ctx owner template .empty fetchers

end Fetcher

/-- **A chain of fetchers returns the union** of the details that its fetchers return, up to the
first one that finds the context cancelled or returns an error; the later ones are not asked. -/
theorem fetch_chain_returns_union (fetchers : List Fetcher) (ctx : Context) (owner : Owner)
    (template : Template) (s : Session) (changes : List (Session × Session))
    (r : Except FetchError (Option Details)) (s' : Session) :
    ((Fetcher.chain fetchers ctx owner template s).Ends changes r s' ↔
      ∃ visits stop, StopsAt ctx (fun f : Fetcher => f ctx owner template) fetchers s
          visits stop changes s'
        ∧ match stop with
          | .atEnd => ∃ d, Details.IsUnion (visits.filterMap Visit.step) d ∧ r = .ok (some d)
          | .cancelled =>
              ∃ d, Details.IsUnion (visits.filterMap Visit.step) d ∧ r = .error ⟨.cancelled, some d⟩
          | .failed e =>
              ∃ d, Details.IsUnion (visits.filterMap Visit.step ++ e.gathered.toList) d
                ∧ r = .error ⟨e.source, some d⟩)
      ∧ ∀ visits stop, StopsAt ctx (fun f : Fetcher => f ctx owner template) fetchers s
            visits stop changes s' → stop ≠ .atEnd → ∀ later : List Fetcher,
          ((Fetcher.chain (fetchers.take (visits.length + 1) ++ later) ctx owner template s).Ends
              changes r s'
            ↔ (Fetcher.chain fetchers ctx owner template s).Ends changes r s') := by
  simp only [Fetcher.chain_eq]
  refine ⟨?_, fun visits stop hstops hstop later =>
    Gathering.ends_chain_congr_later Fetcher.judges_gathering hstops hstop later⟩
  rw [Gathering.ends_chain_iff Fetcher.judges_gathering]
  refine exists_congr fun visits => exists_congr fun stop => and_congr_right fun _ => ?_
  have hunion := Fetcher.isUnion_sum visits
  cases stop with
  | atEnd => exact (hunion.exists_iff fun d => r = .ok (some d)).symm
  | cancelled => exact (hunion.exists_iff fun d => r = .error ⟨.cancelled, some d⟩).symm
  | failed e =>
      exact ((Fetcher.isUnion_add hunion e).exists_iff
        fun d => r = .error ⟨e.source, some d⟩).symm

namespace Sample

/-- The error of a fetcher that has found something before it. -/
def incomplete : FetchError :=
  ⟨.missingKeyReference .fromConnectionSecretKey, some (.ofList [("user", [2])])⟩

/-- Fetchers of which the third one fails. -/
def failingThird : List Fetcher :=
  [fun _ _ _ => pure (.ok (some (.ofList [("host", [1]), ("user", [1])]))),
   fun _ _ _ => pure (.ok none), fun _ _ _ => pure (.error incomplete), fun _ _ _ => Task.hang]

end Sample

open Sample in
theorem gathered_until_the_third :
    (Fetcher.chain failingThird ⟨[0]⟩ ⟨"db", none, none⟩ {} {}).Ends []
        (.error ⟨incomplete.source, some (.ofList [("host", [1]), ("user", [2])])⟩) {}
      ∧ (∃ visits stop, StopsAt ⟨[0]⟩ (fun f : Fetcher => f ⟨[0]⟩ ⟨"db", none, none⟩ {})
          failingThird {} visits stop [] {})
      ∧ (Fetcher.chain (failingThird.take 3 ++ []) ⟨[0]⟩ ⟨"db", none, none⟩ {} {}).Ends []
          (.error ⟨incomplete.source, some (.ofList [("host", [1]), ("user", [2])])⟩) {} := by
  have hends : (Fetcher.chain failingThird ⟨[0]⟩ ⟨"db", none, none⟩ {} {}).Ends []
      (.error ⟨incomplete.source, some (.ofList [("host", [1]), ("user", [2])])⟩) {} := .done _ _
  have hstops : StopsAt ⟨[0]⟩ (fun f : Fetcher => f ⟨[0]⟩ ⟨"db", none, none⟩ {})
      failingThird {} [⟨some (.ofList [("host", [1]), ("user", [1])]), {}, [], {}⟩,
        ⟨none, {}, [], {}⟩] (.failed incomplete) [] {} :=
    .failed rfl (.cons rfl (.done _ _) (.cons rfl (.done _ _) (.nil _))) rfl (.done _ _)
  obtain ⟨hiff, hlater⟩ := fetch_chain_returns_union failingThird ⟨[0]⟩ ⟨"db", none, none⟩ {} {} []
    (.error ⟨incomplete.source, some (.ofList [("host", [1]), ("user", [2])])⟩) {}
  obtain ⟨visits, stop, hstopped, -⟩ := hiff.1 hends
  exact ⟨hends, ⟨visits, stop, hstopped⟩, (hlater _ _ hstops (by rintro ⟨⟩) []).2 hends⟩

/-! ## §4. Chains of publishers. -/

namespace Publisher

variable {owner : Owner} {details : Details}

theorem judges_gathering : gathering.Judges PublishError.source := ⟨fun _ => rfl, fun _ => rfl⟩

/-- What publishers bring is whether one of them has published. -/
theorem sum_eq (visits : List (Visit Bool Session)) :
    gathering.sum .ok visits = visits.any Visit.step := by
  induction visits with
  | nil => rfl
  | cons visit rest ih =>
      show (visit.step || gathering.sum .ok rest) = _
      rw [ih, List.any_cons]

theorem chain_eq (ctx : Context) (publishers : List Publisher) :
    chain publishers ctx owner details
      = gathering.chain ctx.look (publishers.map fun p => p ctx owner details) :=
  chainFrom_eq ctx owner details false publishers

end Publisher

/-- **A chain of publishers returns whether one has published**, up to the first one that finds
the context cancelled or returns an error; the later ones are not asked. -/
theorem publish_chain_returns_flag (publishers : List Publisher) (ctx : Context) (owner : Owner)
    (details : Details) (s : Session) (changes : List (Session × Session))
    (r : Except PublishError Bool) (s' : Session) :
    ((Publisher.chain publishers ctx owner details s).Ends changes r s' ↔
      ∃ visits stop, StopsAt ctx (fun p : Publisher => p ctx owner details) publishers s
          visits stop changes s'
        ∧ match stop with
          | .atEnd => r = .ok (visits.any Visit.step)
          | .cancelled => r = .error ⟨.cancelled, visits.any Visit.step⟩
          | .failed e => r = .error ⟨e.source, visits.any Visit.step || e.published⟩)
      ∧ ∀ visits stop, StopsAt ctx (fun p : Publisher => p ctx owner details) publishers s
            visits stop changes s' → stop ≠ .atEnd → ∀ later : List Publisher,
          ((Publisher.chain (publishers.take (visits.length + 1) ++ later) ctx owner details s).Ends
              changes r s'
            ↔ (Publisher.chain publishers ctx owner details s).Ends changes r s') := by
  simp only [Publisher.chain_eq]
  refine ⟨?_, fun visits stop hstops hstop later =>
    Gathering.ends_chain_congr_later Publisher.judges_gathering hstops hstop later⟩
  rw [Gathering.ends_chain_iff Publisher.judges_gathering]
  refine exists_congr fun visits => exists_congr fun stop => and_congr_right fun _ => ?_
  rw [Publisher.sum_eq]
  cases stop <;> exact Iff.rfl

namespace Sample

/-- Publishers of which the second one cancels the context. -/
def cancellingSecond : List Publisher :=
  [fun _ _ _ => pure (.ok true), fun _ _ _ s => .done (.ok false) (s.fire 0),
   fun _ _ _ => Task.hang]

end Sample

open Sample in
theorem published_until_the_second :
    (Publisher.chain cancellingSecond ⟨[0]⟩ ⟨"db", none, none⟩ .empty {}).Ends []
        (.error ⟨.cancelled, true⟩) (Session.fire {} 0)
      ∧ (∃ visits stop, StopsAt ⟨[0]⟩ (fun p : Publisher => p ⟨[0]⟩ ⟨"db", none, none⟩ .empty)
          cancellingSecond {} visits stop [] (Session.fire {} 0))
      ∧ ∀ last : Publisher,
          (Publisher.chain (cancellingSecond.take 3 ++ [last]) ⟨[0]⟩ ⟨"db", none, none⟩ .empty
            {}).Ends [] (.error ⟨.cancelled, true⟩) (Session.fire {} 0) := by
  have hends : (Publisher.chain cancellingSecond ⟨[0]⟩ ⟨"db", none, none⟩ .empty {}).Ends []
      (.error ⟨.cancelled, true⟩) (Session.fire {} 0) := .done _ _
  have hstops : StopsAt ⟨[0]⟩ (fun p : Publisher => p ⟨[0]⟩ ⟨"db", none, none⟩ .empty)
      cancellingSecond {} [⟨true, {}, [], {}⟩, ⟨false, {}, [], Session.fire {} 0⟩] .cancelled []
      (Session.fire {} 0) :=
    .cancelled rfl (.cons rfl (.done _ _) (.cons rfl (.done _ _) (.nil _))) rfl
  obtain ⟨hiff, hlater⟩ := publish_chain_returns_flag cancellingSecond ⟨[0]⟩ ⟨"db", none, none⟩
    .empty {} [] (.error ⟨.cancelled, true⟩) (Session.fire {} 0)
  obtain ⟨visits, stop, hstopped, -⟩ := hiff.1 hends
  exact ⟨hends, ⟨visits, stop, hstopped⟩,
    fun last => (hlater _ _ hstops (by rintro ⟨⟩) [last]).2 hends⟩

end ConnectionRelay
