/-
  ConnectionRelay.Proofs.Pipeline.AdditivePublish
  ───────────────────────────────────────────────
  **PUBLISHING ONLY ADDS.**

  Calls publish details to a store in memory, one after the other: each for its own owner,
  under its own context and allow-list, and before each of them contexts may be cancelled.
  What a call leaves in an entry is told by its result alone: a successful call overwrites the
  entry of its owner with the part of its details that is allowed, and any other call leaves
  all entries as they are.  Main statements:

    • `PublishCall.make_apply` — one call,
    • `PublishCall.finish_publishAll` — a run of calls,
    • `publishing_only_adds` — what is in the entries after a run, and what no call does.
-/
import ConnectionRelay.Proofs.Pipeline.EndToEnd
import ConnectionRelay.Proofs.Store.MemoryKey

namespace ConnectionRelay

/-! ## §1. Calls. -/

/-- What comes of a publish. -/
abbrev PublishResult := Except PublishError Bool

/-- A call of the publisher of a store. -/
structure PublishCall where
  /-- The tokens that fire before the call. -/
  firing : List Token := []
  ctx : Context
  owner : Owner
  allowlist : Allowlist := {}
  details : Details

namespace PublishCall

/-- The session after the tokens have fired. -/
def fire (call : PublishCall) (s : Session) : Session := call.firing.foldl Session.fire s

/-- Make a call of the publisher of a store in memory. -/
def make (id : Nat) (call : PublishCall) : Operation PublishResult := do
  Task.modify call.fire
  Publisher.ofStore (.memory id) call.allowlist call.ctx call.owner call.details

/-- Make calls, one after the other. -/
def publishAll (id : Nat) : List PublishCall → Operation (List PublishResult)
  | [] => pure []
  | call :: rest => do
      let first ← call.make id
      let others ← publishAll id rest
      pure (first :: others)

/-- May this key be published?  A list without keys allows all of them. -/
def Allows (call : PublishCall) (k : String) : Prop :=
  call.allowlist.keys = [] ∨ k ∈ call.allowlist.keys

instance (call : PublishCall) (k : String) : Decidable (call.Allows k) :=
  inferInstanceAs (Decidable (_ ∨ _))

/-- The part of the details that may be published. -/
def allowed (call : PublishCall) : Details := call.details.filterKeys fun k => call.Allows k

/-- What a call with this result has published in an entry. -/
def published? (entry : String) : PublishCall × PublishResult → Option Details
  | (call, .ok true) =>
      if MemoryStore.key? call.owner = some entry then some call.allowed else none
  | _ => none

/-- The value of a key in an entry. -/
def valueAt (secrets : Dict Details) (entry k : String) : Option Bytes :=
  (secrets.get? entry).bind (·.get? k)

/-- All that a call may do to the entries of a store. -/
structure Additive (call : PublishCall) (result : PublishResult) (before after : Dict Details) :
    Prop where
  /-- No entry disappears, and no key of an entry. -/
  kept : ∀ entry content, before.get? entry = some content →
    ∃ content', after.get? entry = some content'
      ∧ ∀ k, (content.get? k).isSome = true → (content'.get? k).isSome = true
  /-- A call adds no entry but that of its owner, and this one only if it is successful. -/
  entry : ∀ entry, before.get? entry = none → after.get? entry ≠ none →
    result = .ok true ∧ MemoryStore.key? call.owner = some entry
  /-- A value changes only in the entry of the owner of a successful call, and to what the
  details of the call have under an allowed key. -/
  value : ∀ entry k, valueAt after entry k ≠ valueAt before entry k →
    result = .ok true ∧ MemoryStore.key? call.owner = some entry ∧ call.Allows k
      ∧ valueAt after entry k = call.details.get? k

/-! ## §2. What a call publishes. -/

section Published

variable {call : PublishCall} {result : PublishResult} {entry : String} {d : Details}

theorem get?_allowed (k : String) :
    call.allowed.get? k = if call.Allows k then call.details.get? k else none := by
  unfold allowed
  rw [Dict.get?_filterKeys]
  by_cases h : call.Allows k <;> simp [h]

/-- The publisher of a store lets the same part through. -/
theorem restrict_eq (call : PublishCall) : call.allowlist.restrict call.details = call.allowed := by
  have hallows : call.allowlist.allows = fun k => decide (call.Allows k) := by
    funext k
    rw [Bool.eq_iff_iff, decide_eq_true_iff]
    simp [Allowlist.allows, Allows]
  unfold Allowlist.restrict allowed
  rw [hallows]

theorem published?_ok : published? entry (call, .ok true)
    = if MemoryStore.key? call.owner = some entry then some call.allowed else none := rfl

theorem published?_eq_some_iff : published? entry (call, result) = some d ↔
    result = .ok true ∧ MemoryStore.key? call.owner = some entry ∧ d = call.allowed := by
  cases result with
  | error e => simp [published?]
  | ok flag =>
      cases flag with
      | false => simp [published?]
      | true =>
          by_cases h : MemoryStore.key? call.owner = some entry
          · simp [published?, h, eq_comm]
          · simp [published?, h]

/-- An entry is there if it was there before, or if anything is published in it. -/
theorem foldl_overwrite_ne_none_iff (ds : List Details) (content : Option Details) :
    ds.foldl overwrite content ≠ none ↔ content ≠ none ∨ ds ≠ [] := by
  induction ds generalizing content with
  | nil => simp
  | cons d rest ih => simp [ih, overwrite]

/-- Something is published in an entry if a call for its owner is successful. -/
theorem published_ne_nil_iff (entry : String) (pairs : List (PublishCall × PublishResult)) :
    pairs.filterMap (published? entry) ≠ [] ↔
      ∃ call, (call, .ok true) ∈ pairs ∧ MemoryStore.key? call.owner = some entry := by
  constructor
  · intro hne
    obtain ⟨d, hd⟩ := List.exists_mem_of_ne_nil _ hne
    obtain ⟨⟨call, result⟩, hmem, hpublished⟩ := List.mem_filterMap.1 hd
    obtain ⟨rfl, hentry, -⟩ := published?_eq_some_iff.1 hpublished
    exact ⟨call, hmem, hentry⟩
  · rintro ⟨call, hmem, hentry⟩
    have hpublished : published? entry (call, .ok true) = some call.allowed :=
      published?_eq_some_iff.2 ⟨rfl, hentry, rfl⟩
    exact List.ne_nil_of_mem (List.mem_filterMap.2 ⟨_, hmem, hpublished⟩)

/-- An entry is left as it is, or it is that of the owner of a successful call. -/
theorem unchanged_or_published {content content' : Option Details}
    (h : content' = (published? entry (call, result)).toList.foldl overwrite content) :
    content' = content ∨ (result = .ok true ∧ MemoryStore.key? call.owner = some entry
      ∧ content' = overwrite content call.allowed) := by
  cases hpublished : published? entry (call, result) with
  | none =>
      rw [hpublished] at h
      exact .inl h
  | some d =>
      rw [hpublished] at h
      obtain ⟨hresult, hentry, rfl⟩ := published?_eq_some_iff.1 hpublished
      exact .inr ⟨hresult, hentry, h⟩

/-- Only the value of an allowed key changes, and to what the details have. -/
theorem allowed_of_changed {content content' : Option Details} {k : String}
    (h : content' = overwrite content call.allowed)
    (hchanged : content'.bind (·.get? k) ≠ content.bind (·.get? k)) :
    call.Allows k ∧ content'.bind (·.get? k) = call.details.get? k := by
  have hvalue := get?_overwrite content call.allowed k
  rw [← h, get?_allowed] at hvalue
  -- a key that is not allowed, or that the details do not have, keeps its value
  by_cases hallows : call.Allows k
  · rw [if_pos hallows] at hvalue
    cases hdetails : call.details.get? k with
    | none =>
        rw [hdetails, Option.none_or] at hvalue
        exact absurd hvalue hchanged
    | some v =>
        rw [hdetails, Option.some_or] at hvalue
        exact ⟨hallows, hvalue⟩
  · rw [if_neg hallows, Option.none_or] at hvalue
    exact absurd hvalue hchanged

/-- A call that overwrites the entries with what it has published only adds. -/
theorem additive_of_overwrite {before after : Dict Details}
    (h : ∀ entry, after.get? entry
      = (published? entry (call, result)).toList.foldl overwrite (before.get? entry)) :
    Additive call result before after := by
  refine ⟨fun entry content hbefore => ?_, fun entry hbefore hafter => ?_,
    fun entry k hchanged => ?_⟩
  · obtain hsame | ⟨-, -, hmerged⟩ := unchanged_or_published (h entry)
    · exact ⟨content, hsame.trans hbefore, fun k hk => hk⟩
    · rw [hbefore] at hmerged
      refine ⟨_, hmerged, fun k hk => ?_⟩
      rw [Option.getD_some, Dict.get?_merge, Option.isSome_or]
      simp [hk]
  · obtain hsame | ⟨hresult, hentry, -⟩ := unchanged_or_published (h entry)
    · exact absurd (hsame.trans hbefore) hafter
    · exact ⟨hresult, hentry⟩
  · obtain hsame | ⟨hresult, hentry, hmerged⟩ := unchanged_or_published (h entry)
    · exact absurd (by unfold valueAt; rw [hsame]) hchanged
    · exact ⟨hresult, hentry, allowed_of_changed hmerged hchanged⟩

end Published

/-! ## §3. One call. -/

section Make

variable {id : Nat} {s : Session}

theorem secrets_fire (call : PublishCall) (s : Session) : (call.fire s).secrets = s.secrets := by
  unfold fire
  induction call.firing generalizing s with
  | nil => rfl
  | cons token rest ih => exact ih (s.fire token)

theorem secretsOf_fire (call : PublishCall) (s : Session) :
    (call.fire s).secretsOf id = s.secretsOf id := by
  unfold Session.secretsOf
  rw [call.secrets_fire]

/-- **One call.** It ends at once, and overwrites the entries with what it has published.  It
is successful exactly if its owner has a destination and its context is active. -/
theorem make_apply (hid : id < s.secrets.length) (call : PublishCall) :
    ∃ result s', call.make id s = .done result s'
      ∧ s'.secrets.length = s.secrets.length
      ∧ (∀ entry, (s'.secretsOf id).get? entry
          = (published? entry (call, result)).toList.foldl overwrite ((s.secretsOf id).get? entry))
      ∧ (result = .ok true ↔
          call.owner.destination.isSome = true ∧ call.ctx.isCancelled (call.fire s) = false) := by
  have hmake : call.make id s
      = Publisher.ofStore (.memory id) call.allowlist call.ctx call.owner call.details
          (call.fire s) := rfl
  -- tokens that fire leave the secrets alone, so the call may as well start after them
  rw [hmake, ← call.secrets_fire s, ← call.secretsOf_fire s]
  rw [← call.secrets_fire s] at hid
  generalize call.fire s = s at hid ⊢
  unfold Publisher.ofStore
  cases hdestination : call.owner.destination with
  | none => exact ⟨.ok false, _, rfl, rfl, fun entry => rfl, by simp⟩
  | some d =>
      simp only
      by_cases hactive : call.ctx.isCancelled s = false
      · -- the write merges the allowed part into the entry of the owner
        have hkey := MemoryStore.key?_eq hdestination
        let key := MemoryStore.keyFor call.owner d
        let put := MemoryStore.put (s.secretsOf id) key call.allowed
        have hwrite := SecretStore.memory_write_some id call.ctx s hkey call.allowed
        rw [restrict_eq, Publisher.writeTo_of_write hactive hwrite]
        refine ⟨.ok true, _, rfl, ?_, fun entry => ?_, by simp [hactive]⟩
        · show (s.secrets.set id put).length = _
          rw [List.length_set]
        · show ((s.setSecrets id put).secretsOf id).get? entry = _
          rw [Session.secretsOf_setSecrets hid, MemoryStore.get?_put]
          rw [published?_ok, hkey]
          by_cases hentry : entry = key
          · rw [hentry, if_pos rfl, if_pos rfl]
            rfl
          · rw [if_neg hentry, if_neg fun e => hentry (Option.some.inj e).symm]
            rfl
      · have hcancelled : call.ctx.isCancelled s = true := by simpa using hactive
        refine ⟨.error ⟨.cancelled, false⟩, s, ?_, rfl, fun entry => rfl, by simp [hcancelled]⟩
        unfold Publisher.writeTo
        rw [Task.bind_apply, Context.run_of_isCancelled hcancelled]
        rfl

end Make

/-! ## §4. Runs. -/

section Runs

variable {id : Nat} {s s₁ s' : Session}

/-- A run ends as its calls end, one after the other. -/
theorem finish_cons {call : PublishCall} {rest : List PublishCall} {result : PublishResult}
    {results : List PublishResult} (hfirst : (call.make id s).finish = some (result, s₁))
    (hrest : (publishAll id rest s₁).finish = some (results, s')) :
    (publishAll id (call :: rest) s).finish = some (result :: results, s') := by
  unfold publishAll
  rw [Task.finish_bind, hfirst, Option.bind_some, Task.finish_bind, hrest]
  rfl

/-- **A run of calls.** Every entry is overwritten by what was published in it, in order. -/
theorem finish_publishAll (hid : id < s.secrets.length) (calls : List PublishCall) :
    ∃ results s', (publishAll id calls s).finish = some (results, s')
      ∧ results.length = calls.length
      ∧ s'.secrets.length = s.secrets.length
      ∧ ∀ entry, (s'.secretsOf id).get? entry
          = ((calls.zip results).filterMap (published? entry)).foldl overwrite
              ((s.secretsOf id).get? entry) := by
  -- on the calls, with the session general: each call leaves one for the rest
  induction calls generalizing s with
  | nil => exact ⟨[], s, rfl, rfl, rfl, fun entry => rfl⟩
  | cons call rest ih =>
      obtain ⟨result, s₁, hmake, hlength₁, hentries₁, -⟩ := make_apply hid call
      have hfirst : (call.make id s).finish = some (result, s₁) := by
        rw [hmake]
        rfl
      obtain ⟨results, s', hrest, hresults, hlength, hentries⟩ := ih (hlength₁ ▸ hid)
      refine ⟨result :: results, s', finish_cons hfirst hrest, by simp [hresults],
        hlength.trans hlength₁, fun entry => ?_⟩
      have hcons : ((call :: rest).zip (result :: results)).filterMap (published? entry)
          = (published? entry (call, result)).toList
            ++ (rest.zip results).filterMap (published? entry) := by
        rw [List.zip_cons_cons, List.filterMap_cons]
        cases published? entry (call, result) <;> rfl
      rw [hentries, hentries₁, hcons]
      exact List.foldl_append.symm

/-- A run of two lists of calls ends as one of the first and one of the second. -/
theorem finish_append {earlier later : List PublishCall} {results results' : List PublishResult}
    (hearlier : (publishAll id earlier s).finish = some (results, s₁))
    (hlater : (publishAll id later s₁).finish = some (results', s')) :
    (publishAll id (earlier ++ later) s).finish = some (results ++ results', s') := by
  -- on the first list; its run is taken apart call by call and put in front of the second
  induction earlier generalizing s results with
  | nil =>
      cases hearlier
      exact hlater
  | cons call rest ih =>
      unfold publishAll at hearlier
      rw [Task.finish_bind] at hearlier
      obtain ⟨⟨result, s₂⟩, hfirst, hothers⟩ := Option.bind_eq_some_iff.1 hearlier
      rw [Task.finish_bind] at hothers
      obtain ⟨⟨others, s₃⟩, hrest, hpure⟩ := Option.bind_eq_some_iff.1 hothers
      cases hpure
      exact finish_cons hfirst (ih hrest)

end Runs

end PublishCall

open PublishCall in
/-- **Publishing only adds.**  Take a run of calls of the publishers of a store in memory.  It
ends with a result for each call, and then every entry holds what it held at first, overwritten
in order by the allowed part of the details of exactly those calls that were successful and
whose owner has this entry.  So an entry is there if it was there before or such a call was
made.  Every call of the run only adds to what the calls before it have left, and it is
successful exactly if its owner has a destination and its context is active. -/
theorem publishing_only_adds {id : Nat} {s : Session} (hid : id < s.secrets.length)
    (calls : List PublishCall) :
    ∃ results s', (publishAll id calls s).finish = some (results, s')
      ∧ results.length = calls.length
      ∧ (∀ entry, (s'.secretsOf id).get? entry
          = ((calls.zip results).filterMap (published? entry)).foldl overwrite
              ((s.secretsOf id).get? entry))
      ∧ (∀ entry, (s'.secretsOf id).get? entry ≠ none ↔ (s.secretsOf id).get? entry ≠ none
          ∨ ∃ call, (call, .ok true) ∈ calls.zip results
              ∧ MemoryStore.key? call.owner = some entry)
      ∧ ∀ earlier call later, calls = earlier ++ call :: later →
          ∃ before result after s₁ s₂, results = before ++ result :: after
            ∧ (publishAll id earlier s).finish = some (before, s₁)
            ∧ (call.make id s₁).finish = some (result, s₂)
            ∧ (publishAll id later s₂).finish = some (after, s')
            ∧ Additive call result (s₁.secretsOf id) (s₂.secretsOf id)
            ∧ (result = .ok true ↔ call.owner.destination.isSome = true
                ∧ call.ctx.isCancelled (call.fire s₁) = false) := by
  obtain ⟨results, s', hrun, hlength, -, hentries⟩ := finish_publishAll hid calls
  refine ⟨results, s', hrun, hlength, hentries, fun entry => ?_, ?_⟩
  · rw [hentries, foldl_overwrite_ne_none_iff, published_ne_nil_iff]
  · intro earlier call later hcalls
    obtain ⟨before, s₁, hearlier, -, hlength₁, -⟩ := finish_publishAll hid earlier
    have hid₁ : id < s₁.secrets.length := hlength₁ ▸ hid
    obtain ⟨result, s₂, hmake, hlength₂, hentries₂, hsuccess⟩ := make_apply hid₁ call
    obtain ⟨after, s₃, hlater, -⟩ := finish_publishAll (hlength₂ ▸ hid₁) later
    have hcall : (call.make id s₁).finish = some (result, s₂) := by
      rw [hmake]
      rfl
    -- the run in three parts is the run, so it has the same results and the same end
    have hwhole := finish_append hearlier (finish_cons hcall hlater)
    rw [← hcalls, hrun] at hwhole
    cases hwhole
    exact ⟨before, result, after, s₁, s₂, rfl, hearlier, hcall, hlater,
      additive_of_overwrite hentries₂, hsuccess⟩

/-! ## §5. A run. -/

namespace FiveCalls

/-- An owner in a namespace. -/
def tenant : Owner := ⟨"tenant", some "team-a", some (.inStore "conn" "default")⟩

/-- An owner of the whole cluster. -/
def shared : Owner := ⟨"shared", none, some (.inStore "root" "default")⟩

/-- An owner that publishes nothing. -/
def silent : Owner := ⟨"silent", none, none⟩

/-- The secrets before: the first owner has one already. -/
def start : Session :=
  { secrets := [.ofList [("default/team-a/conn", .ofList [("note", [1]), ("user", [2])])]] }

/-- Two calls for the first owner, one that publishes nothing, one that allows nothing of what
it is given, and one that is cancelled before it begins. -/
def calls : List PublishCall :=
  [{ ctx := ⟨[0]⟩, owner := tenant, details := .ofList [("user", [3]), ("port", [4])] },
   { ctx := ⟨[0]⟩, owner := tenant, allowlist := ⟨["port"]⟩,
     details := .ofList [("user", [5]), ("port", [6]), ("password", [7])] },
   { ctx := ⟨[0]⟩, owner := silent, details := .ofList [("user", [8])] },
   { ctx := ⟨[0]⟩, owner := shared, allowlist := ⟨["port"]⟩, details := .ofList [("user", [9])] },
   { firing := [1], ctx := ⟨[1, 0]⟩, owner := tenant, details := .ofList [("note", [10])] }]

/-- What comes of them. -/
def results : List PublishResult :=
  [.ok true, .ok true, .ok false, .ok true, .error ⟨.cancelled, false⟩]

end FiveCalls

open FiveCalls PublishCall in
/-- Only the allowed keys of the successful calls are published, and the secret in which none of
them was is there without a key. -/
theorem published_by_five_calls :
    ∃ s', (publishAll 0 calls start).finish = some (results, s')
      ∧ (s'.secretsOf 0).get? "default/team-a/conn"
          = some (.ofList [("note", [1]), ("port", [6]), ("user", [3])])
      ∧ (s'.secretsOf 0).get? "default/root" = some .empty := by
  obtain ⟨found, s', hrun, -, hentries, -⟩ :=
    publishing_only_adds (show 0 < start.secrets.length by decide) calls
  have hfound : found = results := by
    have hresults : (publishAll 0 calls start).finish.map Prod.fst = some results := rfl
    rw [hrun] at hresults
    exact Option.some.inj hresults
  subst hfound
  refine ⟨s', hrun, ?_, ?_⟩
  · rw [hentries]
    decide +kernel
  · rw [hentries]
    decide +kernel

end ConnectionRelay
