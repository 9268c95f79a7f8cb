/-
  ConnectionRelay.Proofs.Store.NoLostUpdate
  ─────────────────────────────────────────
  **CONCURRENT WRITERS LOSE NOTHING.**

  Any number of writes for one secret of a cluster run side by side, each suspended at
  its requests, and the server takes the requests in any order.  A write goes through
  stages, and only in one of them does the server's next answer depend on what the write
  knows of the secret: there it holds a copy.  Main statement: the data of the secret is
  what the accepted writes make of the first data, in the order in which they were
  accepted, and a write that succeeds has put its details there or has found them there
  (`data_of_concurrent_writes`).
-/
import ConnectionRelay.Proofs.Cluster.Content
import ConnectionRelay.Proofs.Store.ClusterWrite
import ConnectionRelay.Proofs.Store.SharedSecret

namespace ConnectionRelay

open Cluster ClusterStore

/-! ## §1. Calls for one secret. -/

/-- A call that writes to a secret of a cluster. -/
structure WriteCall where
  store : ClusterStore
  ctx : Context
  owner : Owner
  details : Details

namespace WriteCall

/-- The call as an operation. -/
def operation (c : WriteCall) : Operation (Except Failure Unit) :=
  c.store.toStore.write c.ctx c.owner c.details

/-- The call is for the secret at an address. -/
structure IsFor (c : WriteCall) (a : Address) (d : Destination) : Prop where
  cluster : c.store.cluster = a.cluster
  ns : c.store.namespaceOf c.owner = a.ns
  destination : c.owner.destination = some d
  name : d.name = a.name

end WriteCall

/-- The details of the writes that were accepted, in order. -/
def acceptedDetails {ι : Type} (cluster : String) (calls : ι → WriteCall)
    (turns : List (Turn ι Session)) : List Details :=
  (turns.filter (Turn.accepted cluster)).map fun t => (calls t.task).details

/-- What a write may ask of the server: a read, then at most one write. -/
def courses : List (List Method) := [[], [.get], [.get, .post], [.get, .put]]

/-- A write that succeeds has its details in the secret at the turn in which its own
request was accepted, or at the turn of its read if it has sent no other request. -/
def Settled {ι : Type} (a : Address) (details : Details) (own : List (Turn ι Session)) : Prop :=
  (∃ t ∈ own, (t.methods a.cluster = [.post] ∨ t.methods a.cluster = [.put])
      ∧ t.accepted a.cluster = true ∧ t.after.Holds a details)
    ∨ methodsOf a.cluster own = [.get]
        ∧ ∃ t ∈ own, t.methods a.cluster = [.get] ∧ t.after.Holds a details

/-! ## §2. Requests that write. -/

variable {ι : Type} {a : Address} {details : Details} {s s' : Session}

/-- A request that puts details into the secret: into a new one, or into a copy. -/
inductive Writes (a : Address) (details : Details) (s : Session) : Request → Secret → Prop where
  | creates (secret : Secret) (hname : secret.metadata.name = some a.name)
      (hdetails : secret.details = Dict.empty.merge details) :
      Writes a details s (createRequest a.ns secret) secret
  | replaces (copy secret : Secret) (hcopy : Copies a s copy)
      (hversion : secret.metadata.resourceVersion = copy.metadata.resourceVersion)
      (hdetails : secret.details = copy.details.merge details) :
      Writes a details s (replaceRequest a.ns a.name secret) secret

namespace Writes

variable {request : Request} {secret : Secret}

theorem later (h : Writes a details s request secret) (hlater : Later a s s') :
    Writes a details s' request secret := by
  cases h with
  | creates _ hname hdetails => exact .creates _ hname hdetails
  | replaces copy _ hcopy hversion hdetails =>
      exact .replaces copy _ (hcopy.later hlater) hversion hdetails

theorem method (h : Writes a details s request secret) :
    request.method = .post ∨ request.method = .put := by
  cases h with
  | creates => exact .inl rfl
  | replaces => exact .inr rfl

/-- The server stores the secret only where it has the data there, overwritten. -/
theorem written (h : Writes a details s request secret)
    (hfair : (s.serverOf a.cluster).Fair a.place) :
    ApiServer.Written (s.serverOf a.cluster) a.place secret.toJson.sent
      (((s.dataAt a).getD .empty).merge details = secret.details)
      ((s.serverOf a.cluster).handle request.arrived) := by
  cases h with
  | creates _ hname hdetails =>
      -- nothing is there, so the secret holds the details alone
      have hsent := secret.name_toJson.trans hname
      refine (ApiServer.handle_post rfl hfair _ hsent).imp fun habsent => ?_
      have hnone : s.objectAt a = none := habsent
      rw [Session.dataAt, hnone, hdetails]
      rfl
  | replaces copy _ hcopy hversion hdetails =>
      obtain ⟨version, hof, -, hdata⟩ := hcopy
      have hsent : ApiServer.versionOf secret.toJson.sent = .str version := by
        rw [Secret.versionOf_toJson, hversion, hof]
        rfl
      -- the object still has the version of the copy, so it has the data of the copy
      refine (ApiServer.handle_put hfair _ hsent).imp fun hmay => ?_
      obtain ⟨object, hthere, hcurrent⟩ := hmay
      have hobject : s.objectAt a = some object := hthere
      rw [Session.dataAt, hobject, hdetails, ← hdata object hobject hcurrent]
      rfl

end Writes

/-! ## §3. The stages of a write. -/

/-- What a write does when the server takes its second request. -/
def whenWritten (ctx : Context) (cluster : String) (request : Request) (f : Failure)
    (line : LogLine) : Session → Progress Session (Except Failure Unit) :=
  driven ctx cluster request f Secret.decode (·.object? Secret.decode) fun _ s =>
    .done (.ok ()) (s.log [line])

/-- How far a write has come, with the turns it has had. -/
inductive Stage (a : Address) (c : WriteCall) (d : Destination) (own : List (Turn ι Session))
    (s : Session) : Progress Session (Except Failure Unit) → Prop where
  | waiting (s₀ : Session) (hown : methodsOf a.cluster own = []) :
      Stage a c d own s (.paused s₀ c.operation)
  | reading (s₀ : Session) (hown : methodsOf a.cluster own = []) :
      Stage a c d own s (.paused s₀ (whenRead c.store c.ctx a.ns d c.details))
  | writing (s₀ : Session) (request : Request) (secret : Secret) (f : Failure) (line : LogLine)
      (hown : methodsOf a.cluster own = [.get]) (hwrites : Writes a c.details s request secret) :
      Stage a c d own s (.paused s₀ (whenWritten c.ctx a.cluster request f line))
  | unanswered (s₀ : Session) (hown : methodsOf a.cluster own ∈ courses) :
      Stage a c d own s
        (.waiting s₀ c.ctx.isCancelled fun s => .done (.error (.relay .cancelled)) s)
  | failed (f : Failure) (s₀ : Session) (hown : methodsOf a.cluster own ∈ courses) :
      Stage a c d own s (.done (.error f) s₀)
  | lost (s₀ : Session) (hown : methodsOf a.cluster own ∈ courses) :
      Stage a c d own s (.never s₀)
  | succeeded (s₀ : Session) (hown : methodsOf a.cluster own ∈ courses)
      (hsettled : Settled a c.details own) : Stage a c d own s (.done (.ok ()) s₀)

variable {c : WriteCall} {d : Destination} {own : List (Turn ι Session)}
  {p p' : Progress Session (Except Failure Unit)} {methods : List Method}

namespace Stage

theorem mem_courses (h : Stage a c d own s p) : methodsOf a.cluster own ∈ courses := by
  cases h with
  | waiting s₀ hown => simp [hown, courses]
  | reading s₀ hown => simp [hown, courses]
  | writing s₀ request secret f line hown hwrites => simp [hown, courses]
  | unanswered s₀ hown => exact hown
  | failed f s₀ hown => exact hown
  | lost s₀ hown => exact hown
  | succeeded s₀ hown hsettled => exact hown

/-- A write stays at its stage while the others go on. -/
theorem later (h : Stage a c d own s p) (hlater : Later a s s') : Stage a c d own s' p := by
  cases h with
  | waiting s₀ hown => exact .waiting s₀ hown
  | reading s₀ hown => exact .reading s₀ hown
  | writing s₀ request secret f line hown hwrites =>
      exact .writing s₀ request secret f line hown (hwrites.later hlater)
  | unanswered s₀ hown => exact .unanswered s₀ hown
  | failed f s₀ hown => exact .failed f s₀ hown
  | lost s₀ hown => exact .lost s₀ hown
  | succeeded s₀ hown hsettled => exact .succeeded s₀ hown hsettled

end Stage

/-! ## §4. One turn of a write. -/

/-- What a successful read finds is a copy of the object. -/
theorem copies_of_read (hsound : Sound a s) {r : Response} {secret : Secret}
    (hfate : (s.exchange a.cluster (readRequest a.ns a.name)).1 = .answered r)
    (hlook : Client.readAnswer Secret.decode r = some (some secret)) :
    Copies a s secret ∧ s.dataAt a = some secret.details := by
  rw [s.fst_exchange] at hfate
  unfold Client.readAnswer at hlook
  rcases (ApiServer.handle_get hsound.fair none none).2 r hfate with herror | ⟨object, hthere, rfl⟩
  · rw [if_pos herror] at hlook
    split at hlook <;> cases hlook
  · have hobject : s.objectAt a = some object := hthere
    obtain ⟨hkeyed, version, hversion, hspent⟩ := hsound.object object hobject
    have hdecode : Secret.decode.value object.sent = .ok secret := by
      cases hd : Secret.decode.value object.sent with
      | ok found => simpa [Response.isError, Response.object?, Response.decode, hd] using hlook
      | error e => simp [Response.isError, Response.object?, Response.decode, hd] at hlook
    have hdata := Secret.dataOf_of_decode hkeyed hdecode
    refine ⟨⟨version, Secret.resourceVersion_of_decode hkeyed hdecode hversion, hspent, ?_⟩, ?_⟩
    · intro object' hobject' _
      cases hobject.symm.trans hobject'
      exact hdata
    · rw [Session.dataAt, hobject, Option.map_some, hdata]

namespace Stage

/-- After its read, a write fails, or sends a write, or finds its details there. -/
theorem goOn (hfor : c.IsFor a d) (hns : isName a.ns = true) (hname : isName a.name = true)
    (hown : methodsOf a.cluster own = []) (heffect : Effect a c.details s s' [.get])
    {existing : Option Secret}
    (hfound : ∀ secret, existing = some secret →
      Copies a s' secret ∧ s'.dataAt a = some secret.details) (i : ι)
    (hp : c.store.goOn c.ctx a.ns d c.details existing s' = p) :
    Effect a c.details s p.state [.get] ∧ Stage a c d (own ++ [⟨i, s, p.state⟩]) p.state p := by
  obtain ⟨hcluster, -, -, hdname⟩ := hfor
  have hread : ∀ {t : Session}, Effect a c.details s t [.get] →
      methodsOf a.cluster (own ++ [⟨i, s, t⟩]) = [.get] := fun h => by
    rw [h.methodsOf_concat, hown]
    rfl
  have hcourse : ∀ {t : Session}, Effect a c.details s t [.get] →
      methodsOf a.cluster (own ++ [⟨i, s, t⟩]) ∈ courses := fun h => by
    rw [hread h]
    simp [courses]
  unfold ClusterStore.goOn at hp
  -- the turn goes on after the exchange, up to the next request or the end
  by_cases hctx : c.ctx.isCancelled s' = true
  · rw [if_pos hctx] at hp
    subst hp
    exact ⟨heffect, .failed _ _ (hcourse heffect)⟩
  · rw [if_neg hctx] at hp
    have hactive : c.ctx.isCancelled s' = false := by simpa using hctx
    cases existing with
    | none =>
        rw [writeBack_none hns hactive, whenCreated, hcluster, hdname] at hp
        subst hp
        have hlater := heffect.log [Queue.entered]
        exact ⟨hlater, .writing _ _ _ _ _ (hread hlater) (.creates _ rfl rfl)⟩
    | some secret =>
        obtain ⟨hcopy, hdata⟩ := hfound secret rfl
        by_cases hsame : (secret.apply d c.details == secret) = true
        · rw [writeBack_same hsame] at hp
          subst hp
          have hlater := heffect.log
            [writtenLine a.ns .debug "Connection secret" d.name " already up to date"]
          refine ⟨hlater, .succeeded _ (hcourse hlater) (.inr ⟨hread hlater, _,
            List.mem_append_right _ List.mem_cons_self, hlater.methods_eq i, secret.details,
            hdata, fun k v hk => ?_⟩)⟩
          -- the secret would not change, so it has the details already
          rw [← Secret.details_of_same hsame, Dict.get?_merge, hk]
          rfl
        · have hchanged : (secret.apply d c.details == secret) = false := by simpa using hsame
          rw [writeBack_some hns (hdname ▸ hname) hchanged hactive, whenReplaced, hcluster,
            hdname] at hp
          subst hp
          have hlater := heffect.log [Queue.entered]
          exact ⟨hlater, .writing _ _ _ _ _ (hread hlater) (.replaces secret _ hcopy rfl rfl)⟩

/-- A turn that ends a write with a failure, after requests that a write may send. -/
theorem fail (heffect : Effect a c.details s s' methods)
    (hcourse : methodsOf a.cluster own ++ methods ∈ courses) (i : ι) (f : Failure) :
    Stage a c d (own ++ [⟨i, s, s'⟩]) s' (.done (.error f) s') :=
  .failed f s' (heffect.methodsOf_concat i own ▸ hcourse)

/-- The turn in which the server takes the read. -/
theorem read (hfor : c.IsFor a d) (hns : isName a.ns = true) (hname : isName a.name = true)
    (hsound : Sound a s) (hown : methodsOf a.cluster own = []) (i : ι)
    (hp : whenRead c.store c.ctx a.ns d c.details s = p) :
    ∃ methods, Effect a c.details s p.state methods
      ∧ Stage a c d (own ++ [⟨i, s, p.state⟩]) p.state p := by
  have hcomes := comes_driven c.ctx a.cluster (readRequest a.ns a.name)
    (failure "get" a.ns a.name) Secret.decode (Client.readAnswer Secret.decode)
    (c.store.goOn c.ctx a.ns d c.details) s
  rw [whenRead, hfor.cluster, hfor.name] at hp
  rw [hp] at hcomes
  have hkept : Effect a c.details s (s.exchange a.cluster (readRequest a.ns a.name)).2 [.get] :=
    .of_keeps (ApiServer.handle_get hsound.fair none none).1
  have hcourse : methodsOf a.cluster own ++ [.get] ∈ courses := by simp [hown, courses]
  -- in none of the ways in which a read comes out does the object change
  cases hcomes with
  | cancelled => exact ⟨[], .refl s, fail (.refl s) (by simp [hown, courses]) i _⟩
  | failed f lines => exact ⟨_, hkept.log lines, fail (hkept.log lines) hcourse i f⟩
  | unanswered => exact ⟨_, hkept, .unanswered _ (hkept.methodsOf_concat i own ▸ hcourse)⟩
  | answered r existing lines hfate hlook =>
      have heffect := hkept.log lines
      refine ⟨_, goOn hfor hns hname hown heffect (fun secret hsecret => ?_) i rfl⟩
      subst hsecret
      obtain ⟨hcopy, hdata⟩ := copies_of_read hsound hfate hlook
      exact ⟨hcopy.later heffect.later, heffect.dataAt_of_get.trans hdata⟩

/-- The turn in which the server takes the write. -/
theorem write (hsound : Sound a s) (hown : methodsOf a.cluster own = [.get]) {request : Request}
    {secret : Secret} (hwrites : Writes a c.details s request secret) (i : ι) {f : Failure}
    {line : LogLine} (hp : whenWritten c.ctx a.cluster request f line s = p) :
    ∃ methods, Effect a c.details s p.state methods
      ∧ Stage a c d (own ++ [⟨i, s, p.state⟩]) p.state p := by
  have hcomes := comes_driven c.ctx a.cluster request f Secret.decode
    (·.object? Secret.decode) (fun _ s => .done (.ok ()) (s.log [line])) s
  rw [whenWritten] at hp
  rw [hp] at hcomes
  have hwritten := hwrites.written hsound.fair
  have hget : request.method ≠ .get := by
    rcases hwrites.method with h | h <;> rw [h] <;> nofun
  have heffect : Effect a c.details s (s.exchange a.cluster request).2 [request.method] := by
    rcases hwritten with ⟨hkeeps, -⟩ | ⟨hdetails, hstores⟩
    · exact .of_keeps hkeeps
    · exact .of_stores hget hdetails hstores
  -- a write that was stored may still fail on its way back, and is then accepted all the same
  have hcourse : methodsOf a.cluster own ++ [request.method] ∈ courses := by
    rcases hwrites.method with h | h <;> simp [hown, h, courses]
  cases hcomes with
  | cancelled => exact ⟨[], .refl s, fail (.refl s) (by simp [hown, courses]) i _⟩
  | failed f lines => exact ⟨_, heffect.log lines, fail (heffect.log lines) hcourse i f⟩
  | unanswered => exact ⟨_, heffect, .unanswered _ (heffect.methodsOf_concat i own ▸ hcourse)⟩
  | answered r stored lines hfate hlook =>
      have hlater := (heffect.log lines).log [line]
      refine ⟨_, hlater, .succeeded _ (hlater.methodsOf_concat i own ▸ hcourse) (.inl ?_)⟩
      rcases hwritten with ⟨-, herror⟩ | ⟨hdetails, hstores⟩
      · -- an answer that is a failure is not the object
        have hr := herror r (s.fst_exchange a.cluster request ▸ hfate)
        rw [Response.object?, if_pos hr] at hlook
        cases hlook
      · rw [← s.serverOf_exchange] at hstores
        have hmethods := hlater.methods_eq i
        refine ⟨_, List.mem_append_right _ List.mem_cons_self, ?_, accepted_of_stores i hstores,
          holds_of_stores hdetails hstores⟩
        rcases hwrites.method with h | h
        · exact .inl (hmethods.trans (by rw [h]))
        · exact .inr (hmethods.trans (by rw [h]))

/-- **One turn of a write** does to the secret what the write is for, and brings the write
to its next stage. -/
theorem turn (hfor : c.IsFor a d) (hns : isName a.ns = true) (hname : isName a.name = true)
    (hsound : Sound a s) (hstage : Stage a c d own s p) (hresumes : p.resume? s = some p') (i : ι) :
    ∃ methods, Effect a c.details s p'.state methods
      ∧ Stage a c d (own ++ [⟨i, s, p'.state⟩]) p'.state p' := by
  cases hstage with
  | waiting s₀ hown =>
      cases hresumes
      rw [WriteCall.operation]
      by_cases hctx : c.ctx.isCancelled s = true
      · rw [write_of_isCancelled hfor.destination hctx]
        exact ⟨[], .refl s, fail (.refl s) (by simp [hown, courses]) i _⟩
      · have hactive : c.ctx.isCancelled s = false := by simpa using hctx
        rw [write_of_active hfor.destination (hfor.ns ▸ hns) (hfor.name ▸ hname) hactive, hfor.ns]
        have heffect : Effect a c.details s (s.log [Queue.entered]) [] := (Effect.refl s).log _
        exact ⟨[], heffect, .reading _ (heffect.methodsOf_concat i own ▸ by simp [hown])⟩
  | reading s₀ hown =>
      cases hresumes
      exact read hfor hns hname hsound hown i rfl
  | writing s₀ request secret f line hown hwrites =>
      cases hresumes
      exact write hsound hown hwrites i rfl
  | unanswered s₀ hown =>
      simp only [Progress.resume?, Option.ite_none_right_eq_some, Option.some.injEq] at hresumes
      obtain ⟨-, rfl⟩ := hresumes
      exact ⟨[], .refl s, fail (.refl s) (by simpa using hown) i _⟩
  | failed f s₀ hown => cases hresumes
  | lost s₀ hown => cases hresumes
  | succeeded s₀ hown hsettled => cases hresumes

end Stage

/-! ## §5. Runs of concurrent writes. -/

/-- What others may do to a session: anything but to the object, as long as the server
stays fair and gives no version twice. -/
structure Undisturbed (a : Address) (s s' : Session) : Prop where
  object : s'.objectAt a = s.objectAt a
  fair : (s'.serverOf a.cluster).Fair a.place
  versionText : (s'.serverOf a.cluster).versionText = (s.serverOf a.cluster).versionText
  nextVersion : (s.serverOf a.cluster).nextVersion ≤ (s'.serverOf a.cluster).nextVersion

theorem Undisturbed.later (h : Undisturbed a s s') : Later a s s' :=
  ⟨fun _ hspent => hspent.mono h.versionText h.nextVersion, .inl h.object⟩

theorem Undisturbed.sound (h : Undisturbed a s s') (hsound : Sound a s) : Sound a s' := by
  refine ⟨h.fair, fun object hobject => ?_⟩
  obtain ⟨hkeyed, version, hversion, hspent⟩ := hsound.object object (h.object ▸ hobject)
  exact ⟨hkeyed, version, hversion, h.later.spent _ hspent⟩

/-- What is kept of the secret through a run. -/
structure Accounted (a : Address) (calls : ι → WriteCall) (first : Option Details)
    (turns : List (Turn ι Session)) (s : Session) : Prop where
  sound : Sound a s
  data : s.dataAt a = (acceptedDetails a.cluster calls turns).foldl overwrite first
  accepted : ∀ t ∈ turns, t.accepted a.cluster = true →
    t.methods a.cluster = [.post] ∨ t.methods a.cluster = [.put]

/-- A turn keeps the account. -/
theorem Accounted.concat {calls : ι → WriteCall} {first : Option Details}
    {turns : List (Turn ι Session)} (h : Accounted a calls first turns s) (i : ι)
    (heffect : Effect a (calls i).details s s' methods) :
    Accounted a calls first (turns ++ [⟨i, s, s'⟩]) s' := by
  refine ⟨heffect.sound h.sound, ?_, fun t ht haccepted => ?_⟩
  · rw [heffect.dataAt_eq i, acceptedDetails, List.filter_append, List.map_append,
      List.foldl_append, h.data]
    by_cases haccepted : (Turn.mk i s s').accepted a.cluster = true
    · simp [haccepted, acceptedDetails]
    · simp [haccepted, acceptedDetails]
  · rcases List.mem_append.1 ht with ht | ht
    · exact h.accepted t ht haccepted
    · rw [List.mem_singleton] at ht
      subst ht
      rw [heffect.methods_eq i]
      exact heffect.methods_of_accepted i haccepted

/-- The value of a key after details were put in, one after the other, is the last one put
in, or else the first one. -/
theorem get?_foldl_overwrite (ds : List Details) (first : Option Details) (k : String) :
    (ds.foldl overwrite first).bind (·.get? k)
      = ((ds.filterMap (·.get? k)).getLast?).or (first.bind (·.get? k)) := by
  -- on the details from the front, with what they were put into left general
  induction ds generalizing first with
  | nil => simp
  | cons d ds ih =>
      rw [List.foldl_cons, ih]
      have hput := get?_overwrite first d k
      cases hk : d.get? k with
      | none => simp [hput, hk]
      | some v =>
          -- the value put in now is the last one unless a later one follows
          cases hlast : (ds.filterMap (·.get? k)).getLast? with
          | none => simp [hput, hk, List.getLast?_cons, hlast]
          | some w => simp [hk, List.getLast?_cons, hlast]

variable [DecidableEq ι]

/-- **Concurrent writers lose nothing.**  Any number of writes for one secret of a valid
name run side by side, and others do anything but touch the secret.  Then the secret has
the first data, overwritten by the details of the accepted writes in the order of their
acceptance: every key has its last accepted value, or its first one.  Each write asks for
no more than a read and one write, and a write that succeeds had its details in the secret
when the server accepted it, or when it was read if nothing was to be changed. -/
theorem data_of_concurrent_writes (hns : isName a.ns = true) (hname : isName a.name = true)
    {calls : ι → WriteCall} (hcalls : ∀ i, ∃ d, (calls i).IsFor a d) {s₀ : Session}
    (hsound : Sound a s₀) {turns : List (Turn ι Session)}
    {now : SideBySide ι Session (Except Failure Unit)}
    (hrun : Run (Undisturbed a) ⟨s₀, fun i => .paused s₀ (calls i).operation⟩ turns now) :
    now.state.dataAt a = (acceptedDetails a.cluster calls turns).foldl overwrite (s₀.dataAt a)
      ∧ (∀ k, (now.state.dataAt a).bind (·.get? k)
          = ((acceptedDetails a.cluster calls turns).filterMap (·.get? k)).getLast?.or
              ((s₀.dataAt a).bind (·.get? k)))
      ∧ (∀ t ∈ turns, t.accepted a.cluster = true →
          t.methods a.cluster = [.post] ∨ t.methods a.cluster = [.put])
      ∧ ∀ i, methodsOf a.cluster (turnsOf i turns) ∈ courses
          ∧ ∀ s, now.tasks i = .done (.ok ()) s →
              Settled a (calls i).details (turnsOf i turns) := by
  have hkeeps : Accounted a calls (s₀.dataAt a) turns now.state
      ∧ ∀ i, ∃ d, (calls i).IsFor a d
          ∧ Stage a (calls i) d (turnsOf i turns) now.state (now.tasks i) := by
    -- the account is kept of the run as a whole, a stage of each write by itself
    refine hrun.keeps (Accounted a calls (s₀.dataAt a)) (Later a)
      (fun i own s p => ∃ d, (calls i).IsFor a d ∧ Stage a (calls i) d own s p)
      ⟨⟨hsound, rfl, nofun⟩, fun i => ?_⟩ ?_ ?_ ?_
    · obtain ⟨d, hfor⟩ := hcalls i
      exact ⟨d, hfor, .waiting s₀ rfl⟩
    · rintro i own s s' p ⟨d, hfor, hstage⟩ hlater
      exact ⟨d, hfor, hstage.later hlater⟩
    · rintro turns i own s p p' q hkept ⟨d, hfor, hstage⟩ hresumes hsurvives
      obtain ⟨methods, heffect, hnext⟩ := hstage.turn hfor hns hname hkept.sound hresumes i
      refine ⟨hkept.concat i heffect, heffect.later, d, hfor, ?_⟩
      cases hsurvives with
      | whole => exact hnext
      | lost => exact .lost _ hnext.mem_courses
    · intro turns s s' hkept hchange
      refine ⟨⟨hchange.sound hkept.sound, ?_, hkept.accepted⟩, hchange.later⟩
      rw [← hkept.data, Session.dataAt, hchange.object, Session.dataAt]
  obtain ⟨haccounted, hstages⟩ := hkeeps
  refine ⟨haccounted.data, fun k => ?_, haccounted.accepted, fun i => ?_⟩
  · rw [haccounted.data, get?_foldl_overwrite]
  · obtain ⟨d, -, hstage⟩ := hstages i
    refine ⟨hstage.mem_courses, fun s hdone => ?_⟩
    rw [hdone] at hstage
    cases hstage with
    | succeeded s₀ hown hsettled => exact hsettled

/-! ## §6. A race. -/

/-- The secret that the writers of a race write to. -/
def raceAddress : Address := ⟨"east", "crossplane-system", "db"⟩

/-- The writes of a race, each with a key of its own and one that they share. -/
def raceCalls (i : Fin 3) : WriteCall where
  store := { cluster := "east" }
  ctx := ⟨[i.val]⟩
  owner := ⟨"database", none, some { name := "db" }⟩
  details := Dict.ofList [("user", [i.val.toUInt8]), ("writer" ++ toString i.val, [])]

/-- The start of a race. -/
def raceStart : SideBySide (Fin 3) Session (Except Failure Unit) :=
  ⟨{}, fun i => .paused {} (raceCalls i).operation⟩

/-- A race: two writes find no secret, so that one creates it and the other is refused,
and then a third one replaces it. -/
def race : List (Turn (Fin 3) Session) × SideBySide (Fin 3) Session (Except Failure Unit) :=
  SideBySide.schedule [0, 1, 0, 1, 1, 0, 2, 2, 2] ([], raceStart)

/-- The secret has the details of the two writes that were accepted. -/
theorem data_after_race :
    race.2.state.dataAt raceAddress
      = some (Dict.ofList [("user", [2]), ("writer1", []), ("writer2", [])]) := by
  have hcalls : ∀ i, ∃ d, (raceCalls i).IsFor raceAddress d := fun i =>
    ⟨{ name := "db" }, rfl, rfl, rfl, rfl⟩
  have hsound : Sound raceAddress {} := by
    refine ⟨ApiServer.fair_of_no_script rfl rfl _, fun object hobject => ?_⟩
    have hnone : Session.objectAt {} raceAddress = none := rfl
    rw [hnone] at hobject
    cases hobject
  have hstart : Run (Undisturbed raceAddress) raceStart [] raceStart := .start
  have hrun : Run (Undisturbed raceAddress) raceStart race.1 race.2 := hstart.schedule _
  have hdata := (data_of_concurrent_writes (by decide) (by decide) hcalls hsound hrun).1
  exact hdata.trans (by decide +kernel)

end ConnectionRelay
