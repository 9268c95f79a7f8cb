/-
  ConnectionRelay.Proofs.Cluster.FairServer
  ─────────────────────────────────────────
  **SERVERS THAT DO NOT LIE ABOUT AN OBJECT.**

  A server may refuse any request, break its connection or never answer it, and may
  store and remove other objects.  Fair to the object at a place, it neither changes that
  object behind the back of its writers nor answers in place of serving with anything but
  a failure, and it writes different versions differently.  Main statements:

    • `handle_get` — a read changes nothing and, if it succeeds, shows the object,
    • `handle_post`, `handle_put` — a write fails and changes nothing, or it is stored
      under the next version: a new object where there is none, another one where the
      version sent is the current one.
-/
import ConnectionRelay.Proofs.Cluster.Exchange
import ConnectionRelay.Proofs.Cluster.Serving

namespace ConnectionRelay.Cluster

/-! ## §1. Fairness. -/

/-- A rule that leaves an object alone and answers with failures only. -/
structure Rule.Fair (rule : Rule) (place : String) : Prop where
  before : ∀ change ∈ rule.before, change.1 ≠ place
  answer : ∀ r, rule.answer = some r → r.isError = true

namespace ApiServer

/-- A server that is fair to the object at a place. -/
structure Fair (server : ApiServer) (place : String) : Prop where
  rules : ∀ rule, some rule ∈ server.script → rule.Fair place
  versions : ∀ m n, server.versionText m = server.versionText n → m = n

/-- A version that the server will not give again. -/
def Spent (server : ApiServer) (version : String) : Prop :=
  ∀ n, server.nextVersion ≤ n → server.versionText n ≠ version

theorem Fair.nextRule {server : ApiServer} {place : String} (hfair : server.Fair place) :
    server.nextRule.Fair place := by
  unfold ApiServer.nextRule
  cases hrule : server.script[server.taken]? with
  | none => exact ⟨nofun, nofun⟩
  | some o =>
      cases o with
      | none => exact ⟨nofun, nofun⟩
      | some rule => exact hfair.rules rule (List.mem_of_getElem? hrule)

theorem toString_injective {m n : Nat} (h : toString m = toString n) : m = n := by
  have hdigits : Nat.toDigits 10 m = Nat.toDigits 10 n := by
    rw [← Nat.toList_repr, ← Nat.toList_repr]
    exact congrArg String.toList h
  rw [← @Nat.ofDigitChars_toDigits 10 m (by omega) (by omega), hdigits,
    Nat.ofDigitChars_toDigits (by omega) (by omega)]

/-- A server without a script that counts its versions is fair. -/
theorem fair_of_no_script {server : ApiServer} (hscript : server.script = [])
    (htext : server.versionText = toString) (place : String) : server.Fair place where
  rules rule hrule := by rw [hscript] at hrule; cases hrule
  versions m n h := by rw [htext] at h; exact toString_injective h

/-! ## §2. What a request does to a server. -/

/-- The server goes on with the same object at a place. -/
structure Keeps (server server' : ApiServer) (place : String) : Prop where
  object : server'.objects.get? place = server.objects.get? place
  script : server'.script = server.script
  versionText : server'.versionText = server.versionText
  nextVersion : server'.nextVersion = server.nextVersion

/-- The server has stored an object at a place, under the next version. -/
structure Stores (server server' : ApiServer) (place : String) (body : Json) : Prop where
  object : server'.objects.get? place
    = some (withVersion body (server.versionText server.nextVersion))
  script : server'.script = server.script
  versionText : server'.versionText = server.versionText
  nextVersion : server'.nextVersion = server.nextVersion + 1

variable {server server' server'' : ApiServer} {place : String} {body : Json}

theorem Keeps.refl (server : ApiServer) (place : String) : server.Keeps server place :=
  ⟨rfl, rfl, rfl, rfl⟩

theorem Keeps.fair (h : server.Keeps server' place) (hfair : server.Fair place) :
    server'.Fair place :=
  ⟨h.script ▸ hfair.rules, h.versionText ▸ hfair.versions⟩

theorem Stores.fair (h : server.Stores server' place body) (hfair : server.Fair place) :
    server'.Fair place :=
  ⟨h.script ▸ hfair.rules, h.versionText ▸ hfair.versions⟩

theorem Keeps.stores (h : server.Keeps server' place)
    (hstores : server'.Stores server'' place body) : server.Stores server'' place body where
  object := by rw [hstores.object, h.versionText, h.nextVersion]
  script := hstores.script.trans h.script
  versionText := hstores.versionText.trans h.versionText
  nextVersion := by rw [hstores.nextVersion, h.nextVersion]

/-- Versions are only ever spent. -/
theorem Spent.mono {version : String} (h : server.Spent version)
    (htext : server'.versionText = server.versionText)
    (hle : server.nextVersion ≤ server'.nextVersion) : server'.Spent version := by
  intro n hn
  rw [htext]
  exact h n (by omega)

theorem Spent.keeps {version : String} (h : server.Spent version)
    (hkeeps : server.Keeps server' place) : server'.Spent version :=
  h.mono hkeeps.versionText (Nat.le_of_eq hkeeps.nextVersion.symm)

/-- The next version is spent by storing something under it. -/
theorem Stores.spent (h : server.Stores server' place body) (hfair : server.Fair place) :
    server'.Spent (server.versionText server.nextVersion) := by
  intro n hn heq
  rw [h.versionText] at heq
  have hnext := hfair.versions _ _ heq
  have hlt := h.nextVersion
  omega

theorem not_spent_next (server : ApiServer) :
    ¬ server.Spent (server.versionText server.nextVersion) := fun h =>
  h server.nextVersion (Nat.le_refl _) rfl

/-- What a rule does first leaves the object alone. -/
theorem keeps_prepare {changes : List (String × Option Json)}
    (h : ∀ change ∈ changes, change.1 ≠ place) (server : ApiServer) :
    server.Keeps (server.prepare changes) place := by
  refine ⟨?_, rfl, rfl, rfl⟩
  show (changes.foldl _ server.objects).get? place = _
  -- on the changes, with the objects before them left general
  generalize server.objects = objects
  induction changes generalizing objects with
  | nil => rfl
  | cons change changes ih =>
      have hne : place ≠ change.1 := fun e => h change List.mem_cons_self e.symm
      rw [List.foldl_cons, ih fun c hc => h c (List.mem_cons_of_mem _ hc)]
      cases change.2 <;> simp [hne]

/-- A server fails a request and keeps the object, or serves it, with the object kept
until then. -/
theorem handle_cases (hfair : server.Fair place) (request : Request) :
    (server.Keeps (server.handle request).2 place
        ∧ ∀ r, (server.handle request).1 = .answered r → r.isError = true)
      ∨ ∃ prepared, server.Keeps prepared place
          ∧ server.handle request
            = (.answered (prepared.serve request).1, (prepared.serve request).2) := by
  have hrule := hfair.nextRule
  have htake : server.Keeps server.take place := ⟨rfl, rfl, rfl, rfl⟩
  have hprepare := keeps_prepare hrule.before server.take
  unfold handle
  -- the cases of a rule, in the order in which the server goes through them
  by_cases hhang : server.nextRule.hang = true
  · rw [if_pos hhang]
    exact .inl ⟨htake, nofun⟩
  · rw [if_neg hhang]
    by_cases hfail : server.nextRule.fail = true
    · rw [if_pos hfail]
      exact .inl ⟨htake, nofun⟩
    · rw [if_neg hfail]
      unfold respond
      cases hanswer : server.nextRule.answer with
      | some response =>
          refine .inl ⟨⟨hprepare.object, rfl, rfl, rfl⟩, fun r hr => ?_⟩
          cases hr
          exact hrule.answer response hanswer
      | none => exact .inr ⟨_, ⟨hprepare.object, rfl, rfl, rfl⟩, rfl⟩

/-! ## §3. Reads. -/

theorem handle_get (hfair : server.Fair place) (query : Option String) (sent : Option Json) :
    server.Keeps (server.handle ⟨.get, ⟨place, query⟩, sent⟩).2 place
      ∧ ∀ r, (server.handle ⟨.get, ⟨place, query⟩, sent⟩).1 = .answered r →
          r.isError = true
            ∨ ∃ object, server.objects.get? place = some object ∧ r = ⟨200, .json object⟩ := by
  rcases handle_cases hfair ⟨.get, ⟨place, query⟩, sent⟩ with ⟨hkeeps, herror⟩ | ⟨p, hp, heq⟩
  · exact ⟨hkeeps, fun r hr => .inl (herror r hr)⟩
  · rw [heq]
    cases hobject : server.objects.get? place with
    | none =>
        rw [serve_get_none (hp.object.trans hobject)]
        exact ⟨hp, fun r hr => .inl (by cases hr; rfl)⟩
    | some object =>
        rw [serve_get_some (hp.object.trans hobject)]
        exact ⟨hp, fun r hr => .inr ⟨object, rfl, by cases hr; rfl⟩⟩

/-! ## §4. Writes. -/

theorem stores_store (server : ApiServer) (place : String) (body : Json) (status : Nat) :
    server.Stores (server.store place body status).2 place body := by
  refine ⟨?_, rfl, rfl, rfl⟩
  simp [store]

/-- What comes of a write: it fails and changes nothing, or it is stored, which only
happens where it may be. -/
def Written (server : ApiServer) (place : String) (body : Json) (may : Prop)
    (outcome : Fate × ApiServer) : Prop :=
  (server.Keeps outcome.2 place ∧ ∀ r, outcome.1 = .answered r → r.isError = true)
    ∨ (may ∧ server.Stores outcome.2 place body)

theorem Written.imp {may may' : Prop} {outcome : Fate × ApiServer}
    (h : Written server place body may outcome) (himp : may → may') :
    Written server place body may' outcome :=
  Or.imp_right (And.imp_left himp) h

/-- A new object is stored only where there is none. -/
theorem handle_post {path name : String} (hplace : place = path ++ "/" ++ name)
    (hfair : server.Fair place) (query : Option String)
    (hname : ((body.field "metadata").field "name").text? = some name) :
    Written server place body (server.objects.get? place = none)
      (server.handle ⟨.post, ⟨path, query⟩, some body⟩) := by
  rcases handle_cases hfair ⟨.post, ⟨path, query⟩, some body⟩ with ⟨hkeeps, herror⟩ | ⟨p, hp, heq⟩
  · exact .inl ⟨hkeeps, herror⟩
  · rw [heq]
    cases hobject : server.objects.get? place with
    | some object =>
        rw [serve_post_some hplace hname (hp.object.trans hobject)]
        exact .inl ⟨hp, fun r hr => by cases hr; rfl⟩
    | none =>
        rw [serve_post_none hplace hname (hp.object.trans hobject)]
        exact .inr ⟨rfl, hp.stores (stores_store p place body 201)⟩

/-- An object is replaced only by one that carries its version. -/
theorem handle_put (hfair : server.Fair place) (query : Option String) {version : String}
    (hversion : versionOf body = .str version) :
    Written server place body
      (∃ object, server.objects.get? place = some object ∧ versionOf object = .str version)
      (server.handle ⟨.put, ⟨place, query⟩, some body⟩) := by
  rcases handle_cases hfair ⟨.put, ⟨place, query⟩, some body⟩ with ⟨hkeeps, herror⟩ | ⟨p, hp, heq⟩
  · exact .inl ⟨hkeeps, herror⟩
  · rw [heq]
    cases hobject : server.objects.get? place with
    | none =>
        rw [serve_put_none (hp.object.trans hobject)]
        exact .inl ⟨hp, fun r hr => by cases hr; rfl⟩
    | some object =>
        have hthere := hp.object.trans hobject
        by_cases hcurrent : versionOf object = .str version
        · have hserve : p.serve ⟨.put, ⟨place, query⟩, some body⟩ = p.store place body 200 :=
            serve_put_current hthere
              (show versionOf object = ((some version).map Json.str).getD .null from hcurrent)
              hversion
          rw [hserve]
          exact .inr ⟨⟨object, rfl, hcurrent⟩, hp.stores (stores_store p place body 200)⟩
        · rw [serve_put_stale hthere hversion hcurrent]
          exact .inl ⟨hp, fun r hr => by cases hr; rfl⟩

end ApiServer

end ConnectionRelay.Cluster
