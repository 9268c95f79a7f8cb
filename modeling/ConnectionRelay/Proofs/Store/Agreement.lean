/-
  ConnectionRelay.Proofs.Store.Agreement
  ──────────────────────────────────────
  **THE STORES ANSWER ALIKE.**

  A store in memory and a cluster that only serves keep the same details for each owner,
  as long as no two owners share a secret: one under a key that is put together from the
  names of the owner's destination, and the other in the object at a place (`Agree`).
  Every call keeps them so, and both answer it as the details that owners hold say.  Main
  statements:

    • `eq_of_key`, `eq_of_place` — different owners have different keys and places,
    • `Agree.read`, `Agree.write` — one call,
    • `stores_agree` — any sequence of calls.
-/
import ConnectionRelay.Proofs.Store.ClusterAnswers
import ConnectionRelay.Proofs.Store.MemoryKey
import ConnectionRelay.Proofs.Store.Routing

namespace ConnectionRelay

open Cluster

/-! ## §1. Valid names. -/

theorem slash_not_mem {name : String} (h : isName name = true) : '/' ∉ name.toList := by
  intro hmem
  have hslash : isNameChar '/' = true := (isName_iff.1 h).2.1 '/' hmem
  revert hslash
  decide

/-! ## §2. Owners that are told apart. -/

/-- The place of an owner's secret in a cluster. -/
def ClusterStore.placeFor (store : ClusterStore) (o : Owner) (d : Destination) : String :=
  Secret.place (store.namespaceOf o) d.name

/-- Owners whose store configs, namespaces and secrets have valid names, and of which no two
have a secret of the same name in the same namespace. -/
structure ClusterStore.Separates (store : ClusterStore) (owners : Owner → Prop) : Prop where
  config : ∀ o d, owners o → o.destination = some d →
    isName (d.storeConfig defaultStoreConfig) = true
  ns : ∀ o d, owners o → o.destination = some d → isName (store.namespaceOf o) = true
  name : ∀ o d, owners o → o.destination = some d → isName d.name = true
  apart : ∀ o o' d d', owners o → owners o' → o.destination = some d →
    o'.destination = some d' → store.namespaceOf o = store.namespaceOf o' → d.name = d'.name →
    o = o'

namespace ClusterStore.Separates

variable {store : ClusterStore} {owners : Owner → Prop} {o o' : Owner} {d d' : Destination}

/-- Valid names have no slashes in them. -/
theorem unslashed (h : store.Separates owners) (ho : owners o) (hd : o.destination = some d) :
    MemoryStore.Unslashed o d where
  config := slash_not_mem (h.config o d ho hd)
  ns ns hns := by
    have hname := h.ns o d ho hd
    unfold ClusterStore.namespaceOf at hname
    rw [hns] at hname
    exact slash_not_mem hname
  name _ := slash_not_mem (h.name o d ho hd)

/-- Different owners have different keys. -/
theorem eq_of_key (h : store.Separates owners) (ho : owners o) (ho' : owners o')
    (hd : o.destination = some d) (hd' : o'.destination = some d')
    (hkey : MemoryStore.keyFor o d = MemoryStore.keyFor o' d') : o = o' := by
  have hsame := (MemoryStore.keyFor_eq_iff (h.unslashed ho hd) (h.unslashed ho' hd')).1 hkey
  have hns : store.namespaceOf o = store.namespaceOf o' := by
    unfold ClusterStore.namespaceOf
    rw [hsame.ns]
  exact h.apart o o' d d' ho ho' hd hd' hns hsame.name

/-- Different owners have different places. -/
theorem eq_of_place (h : store.Separates owners) (ho : owners o) (ho' : owners o')
    (hd : o.destination = some d) (hd' : o'.destination = some d')
    (hplace : store.placeFor o d = store.placeFor o' d') : o = o' := by
  have hlist := congrArg String.toList hplace
  unfold ClusterStore.placeFor Secret.place Secret.path at hlist
  simp only [String.toList_append, List.append_assoc] at hlist
  -- all places begin alike, and the namespace ends at the next slash
  have hafter := List.append_cancel_left hlist
  obtain ⟨hns, hrest⟩ := eq_of_slash (slash_not_mem (h.ns o d ho hd))
    (slash_not_mem (h.ns o' d' ho' hd')) hafter
  have hname : d.name.toList = d'.name.toList :=
    List.append_cancel_left (List.append_cancel_left hrest)
  exact h.apart o o' d d' ho ho' hd hd' (String.toList_inj.1 hns) (String.toList_inj.1 hname)

end ClusterStore.Separates

/-! ## §3. Calls and what they answer. -/

/-- A call of a store. -/
inductive StoreCall where
  | read (owner : Owner)
  | write (owner : Owner) (details : Details)

/-- The answer to a call. -/
inductive StoreAnswer where
  | found (result : Except Failure (Option Details))
  | written (result : Except Failure Unit)

/-- The details that owners hold after one of them has written. -/
def heldAfter (held : Owner → Option Details) (owner : Owner) (details : Details) :
    Owner → Option Details := fun o =>
  if o = owner then some (((held owner).getD .empty).merge details) else held o

namespace StoreCall

/-- Whose secret a call is about. -/
def owner : StoreCall → Owner
  | .read o => o
  | .write o _ => o

/-- Make a call of a store. -/
def ask (store : SecretStore) (ctx : Context) : StoreCall → Operation StoreAnswer
  | .read o => do
      let result ← store.read ctx o
      pure (.found result)
  | .write o details => do
      let result ← store.write ctx o details
      pure (.written result)

/-- What a call should be answered when owners hold these details. -/
def answer (held : Owner → Option Details) : StoreCall → StoreAnswer
  | .read o => .found (.ok (held o))
  | .write o _ =>
      .written (if o.destination.isSome then .ok () else .error (.noDestination o))

/-- What owners hold after a call; an owner without a destination holds nothing. -/
def after (held : Owner → Option Details) : StoreCall → Owner → Option Details
  | .read _ => held
  | .write o details => if o.destination.isSome then heldAfter held o details else held

section Write

variable {held : Owner → Option Details} {o : Owner} {details : Details} {d : Destination}

theorem answer_write_none (h : o.destination = none) :
    (StoreCall.write o details).answer held = .written (.error (.noDestination o)) := by
  simp [answer, h]

theorem answer_write_some (h : o.destination = some d) :
    (StoreCall.write o details).answer held = .written (.ok ()) := by
  simp [answer, h]

theorem after_write_none (h : o.destination = none) :
    (StoreCall.write o details).after held = held := by
  simp [after, h]

theorem after_write_some (h : o.destination = some d) :
    (StoreCall.write o details).after held = heldAfter held o details := by
  simp [after, h]

end Write

/-- What calls should be answered, one after the other. -/
def answersTo (held : Owner → Option Details) : List StoreCall → List StoreAnswer
  | [] => []
  | call :: rest => call.answer held :: answersTo (call.after held) rest

end StoreCall

/-- Make calls of a store, one after the other. -/
def SecretStore.answers (store : SecretStore) (ctx : Context) :
    List StoreCall → Operation (List StoreAnswer)
  | [] => pure []
  | call :: rest => do
      let first ← call.ask store ctx
      let others ← store.answers ctx rest
      pure (first :: others)

section Finished

variable {store : SecretStore} {ctx : Context} {s s₁ s' : Session} {o : Owner}

theorem StoreCall.finish_read {result : Except Failure (Option Details)}
    (h : (store.read ctx o s).finish = some (result, s')) :
    ((StoreCall.read o).ask store ctx s).finish = some (.found result, s') := by
  unfold StoreCall.ask
  rw [Task.finish_bind, h]
  rfl

theorem StoreCall.finish_write {details : Details} {result : Except Failure Unit}
    (h : (store.write ctx o details s).finish = some (result, s')) :
    ((StoreCall.write o details).ask store ctx s).finish = some (.written result, s') := by
  unfold StoreCall.ask
  rw [Task.finish_bind, h]
  rfl

theorem SecretStore.finish_answers {call : StoreCall} {rest : List StoreCall}
    {first : StoreAnswer} {others : List StoreAnswer}
    (hfirst : (call.ask store ctx s).finish = some (first, s₁))
    (hrest : (store.answers ctx rest s₁).finish = some (others, s')) :
    (store.answers ctx (call :: rest) s).finish = some (first :: others, s') := by
  unfold SecretStore.answers
  rw [Task.finish_bind, hfirst, Option.bind_some, Task.finish_bind, hrest]
  rfl

end Finished

/-! ## §4. Stores that agree. -/

/-- A store in memory and the server of a cluster keep what owners hold. -/
structure Agree (store : ClusterStore) (id : Nat) (owners : Owner → Prop)
    (held : Owner → Option Details) (m c : Session) : Prop where
  memory : id < m.secrets.length
  script : (c.serverOf store.cluster).script = []
  silent : ∀ o, o.destination = none → held o = none
  inMemory : ∀ o d, owners o → o.destination = some d →
    (m.secretsOf id).get? (MemoryStore.keyFor o d) = held o
  inCluster : ∀ o d, owners o → o.destination = some d → ∃ secret,
    Keeping secret (held o) ((c.serverOf store.cluster).objects.get? (store.placeFor o d))

namespace Agree

variable {store : ClusterStore} {id : Nat} {owners : Owner → Prop}
  {held : Owner → Option Details} {m c c' : Session} {ctx : Context} {o : Owner}

/-- Stores without secrets agree that nobody holds anything. -/
theorem fresh (hmemory : id < m.secrets.length) (hempty : m.secretsOf id = .empty)
    (hscript : (c.serverOf store.cluster).script = [])
    (hobjects : (c.serverOf store.cluster).objects = .empty) :
    Agree store id owners (fun _ => none) m c := by
  refine ⟨hmemory, hscript, fun _ _ => rfl, fun o d _ _ => ?_, fun o d _ _ => ⟨none, ?_⟩⟩
  · rw [hempty]
    rfl
  · rw [hobjects]
    exact keeping_none

/-- A read leaves the cluster in agreement. -/
theorem taken (h : Agree store id owners held m c)
    (hserver : c'.serverOf store.cluster = (c.serverOf store.cluster).take) :
    Agree store id owners held m c' := by
  refine ⟨h.memory, ?_, h.silent, h.inMemory, fun o d ho hd => ?_⟩
  · rw [hserver]
    exact h.script
  · rw [hserver]
    exact h.inCluster o d ho hd

/-- Both stores answer a read with what the owner holds. -/
theorem read (h : Agree store id owners held m c) (hseparates : store.Separates owners)
    (ho : owners o) (hactive : ctx.isCancelled c = false) :
    ((SecretStore.memory id).read ctx o m).finish = some (.ok (held o), m)
      ∧ ∃ c', (store.toStore.read ctx o c).finish = some (.ok (held o), c')
        ∧ Agree store id owners held m c' ∧ ctx.isCancelled c' = false := by
  cases hd : o.destination with
  | none =>
      rw [h.silent o hd]
      refine ⟨?_, c, ?_, h, hactive⟩
      · rw [SecretStore.memory_read, MemoryStore.key?_none hd]
        rfl
      · simp only [ClusterStore.toStore, hd]
        rfl
  | some d =>
      obtain ⟨secret, hkeeping⟩ := h.inCluster o d ho hd
      obtain ⟨c', hserver, hfired, hread⟩ := ClusterStore.read_keeping hd
        (hseparates.ns o d ho hd) (hseparates.name o d ho hd) hactive h.script hkeeping
      have hserves : c.Serves c' store.cluster (store.placeFor o d) :=
        serves_of_take hserver hfired
      refine ⟨?_, c', hread, h.taken hserver, ?_⟩
      · rw [SecretStore.memory_read, MemoryStore.key?_eq hd, Option.bind_some,
          h.inMemory o d ho hd]
        rfl
      · rw [hserves.isCancelled_eq, hactive]

/-- A write for an owner with a destination succeeds in both stores. -/
theorem write {d : Destination} (h : Agree store id owners held m c)
    (hseparates : store.Separates owners) (ho : owners o) (hd : o.destination = some d)
    (hactive : ctx.isCancelled c = false) (details : Details) :
    ∃ m' c', ((SecretStore.memory id).write ctx o details m).finish = some (.ok (), m')
      ∧ (store.toStore.write ctx o details c).finish = some (.ok (), c')
      ∧ Agree store id owners (heldAfter held o details) m' c' ∧ ctx.isCancelled c' = false := by
  obtain ⟨secret, hkeeping⟩ := h.inCluster o d ho hd
  obtain ⟨c', hwrite, hserves, written, hwritten⟩ := ClusterStore.write_keeping hd
    (hseparates.ns o d ho hd) (hseparates.name o d ho hd) hactive h.script details hkeeping
  let put := MemoryStore.put (m.secretsOf id) (MemoryStore.keyFor o d) details
  have hown : ∀ {d'}, o.destination = some d' → d' = d := fun hd' =>
    Option.some.inj (hd'.symm.trans hd)
  refine ⟨m.setSecrets id put, c', ?_, hwrite,
    ⟨?_, ?_, fun o' hd' => ?_, fun o' d' ho' hd' => ?_, fun o' d' ho' hd' => ?_⟩, ?_⟩
  · rw [SecretStore.memory_write_some id ctx m (MemoryStore.key?_eq hd)]
    rfl
  · show id < (m.secrets.set id put).length
    rw [List.length_set]
    exact h.memory
  · rw [hserves.script, h.script]
  · have hother : o' ≠ o := by
      rintro rfl
      rw [hd] at hd'
      cases hd'
    unfold heldAfter
    rw [if_neg hother, h.silent o' hd']
  · unfold heldAfter
    rw [Session.secretsOf_setSecrets h.memory, MemoryStore.get?_put]
    by_cases hsame : o' = o
    · -- The owner's own secret was written.
      subst hsame
      obtain rfl := hown hd'
      rw [if_pos rfl, if_pos rfl, h.inMemory o' d' ho' hd']
    · -- Another owner has a key of its own.
      have hkey : MemoryStore.keyFor o' d' ≠ MemoryStore.keyFor o d := fun e =>
        hsame (hseparates.eq_of_key ho' ho hd' hd e)
      rw [if_neg hkey, if_neg hsame, h.inMemory o' d' ho' hd']
  · unfold heldAfter
    by_cases hsame : o' = o
    · subst hsame
      obtain rfl := hown hd'
      rw [if_pos rfl]
      exact ⟨written, hwritten⟩
    · -- Another owner has a place of its own.
      have hplace : store.placeFor o' d' ≠ store.placeFor o d := fun e =>
        hsame (hseparates.eq_of_place ho' ho hd' hd e)
      rw [if_neg hsame, hserves.elsewhere _ hplace]
      exact h.inCluster o' d' ho' hd'
  · rw [hserves.isCancelled_eq, hactive]

/-- Both stores answer a call as it should be answered, and still agree. -/
theorem ask (h : Agree store id owners held m c) (hseparates : store.Separates owners)
    (hactive : ctx.isCancelled c = false) {call : StoreCall} (ho : owners call.owner) :
    ∃ m' c', (call.ask (.memory id) ctx m).finish = some (call.answer held, m')
      ∧ (call.ask store.toStore ctx c).finish = some (call.answer held, c')
      ∧ Agree store id owners (call.after held) m' c' ∧ ctx.isCancelled c' = false := by
  cases call with
  | read o =>
      obtain ⟨hmemory, c', hcluster, hkept⟩ := h.read hseparates ho hactive
      exact ⟨m, c', StoreCall.finish_read hmemory, StoreCall.finish_read hcluster, hkept⟩
  | write o details =>
      have ho : owners o := ho
      cases hd : o.destination with
      | none =>
          rw [StoreCall.answer_write_none hd, StoreCall.after_write_none hd]
          have hmemory : ((SecretStore.memory id).write ctx o details m).finish
              = some (.error (.noDestination o), m) := by
            rw [SecretStore.memory_write_none id ctx m (MemoryStore.key?_none hd)]
            rfl
          have hcluster : (store.toStore.write ctx o details c).finish
              = some (.error (.noDestination o), c) := by
            simp only [ClusterStore.toStore, hd]
            rfl
          exact ⟨m, c, StoreCall.finish_write hmemory, StoreCall.finish_write hcluster, h, hactive⟩
      | some d =>
          rw [StoreCall.answer_write_some hd, StoreCall.after_write_some hd]
          obtain ⟨m', c', hmemory, hcluster, hkept⟩ := h.write hseparates ho hd hactive details
          exact ⟨m', c', StoreCall.finish_write hmemory, StoreCall.finish_write hcluster, hkept⟩

/-- So they do with a sequence of calls. -/
theorem answers (h : Agree store id owners held m c) (hseparates : store.Separates owners)
    (hactive : ctx.isCancelled c = false) (calls : List StoreCall)
    (hcalls : ∀ call ∈ calls, owners call.owner) :
    ∃ m' c', ((SecretStore.memory id).answers ctx calls m).finish
        = some (StoreCall.answersTo held calls, m')
      ∧ (store.toStore.answers ctx calls c).finish
        = some (StoreCall.answersTo held calls, c') := by
  -- on the calls, with the sessions general: each call leaves two others that agree
  induction calls generalizing held m c with
  | nil => exact ⟨m, c, rfl, rfl⟩
  | cons call rest ih =>
      obtain ⟨m₁, c₁, hmemory, hcluster, hagree, hactive₁⟩ :=
        h.ask hseparates hactive (hcalls call List.mem_cons_self)
      obtain ⟨m', c', hmemory', hcluster'⟩ :=
        ih hagree hactive₁ fun call hcall => hcalls call (List.mem_cons_of_mem _ hcall)
      exact ⟨m', c', SecretStore.finish_answers hmemory hmemory',
        SecretStore.finish_answers hcluster hcluster'⟩

end Agree

/-- **The two stores agree.** Take owners with valid names, of which no two share a secret.
Whatever they read and write, one call after the other, a fresh store in memory and a cluster
without objects, whose server only serves, give the same answer to every call: a read finds
what the writes for its owner have merged, and a write succeeds unless its owner has no
destination. -/
theorem stores_agree {store : ClusterStore} {id : Nat} {owners : Owner → Prop} {m c : Session}
    {ctx : Context} (hseparates : store.Separates owners) (hmemory : id < m.secrets.length)
    (hempty : m.secretsOf id = .empty) (hscript : (c.serverOf store.cluster).script = [])
    (hobjects : (c.serverOf store.cluster).objects = .empty)
    (hactive : ctx.isCancelled c = false) (calls : List StoreCall)
    (hcalls : ∀ call ∈ calls, owners call.owner) :
    ∃ answers m' c', ((SecretStore.memory id).answers ctx calls m).finish = some (answers, m')
      ∧ (store.toStore.answers ctx calls c).finish = some (answers, c')
      ∧ answers = StoreCall.answersTo (fun _ => none) calls := by
  obtain ⟨m', c', hm, hc⟩ :=
    (Agree.fresh hmemory hempty hscript hobjects).answers hseparates hactive calls hcalls
  exact ⟨_, m', c', hm, hc, rfl⟩

/-! ## §5. Three owners. -/

namespace ThreeOwners

/-- An owner without a namespace. -/
def database : Owner := ⟨"database", none, some (.inStore "db" "default")⟩

/-- An owner of a secret of the same name in a namespace, with a label on it. -/
def tenant : Owner :=
  ⟨"tenant", some "prod",
   some { name := "db", metadata := some { labels := some (.ofList [("team", "blue")]) } }⟩

/-- An owner that publishes nothing. -/
def silent : Owner := ⟨"silent", none, none⟩

/-- The three of them. -/
def owners (o : Owner) : Prop := o = database ∨ o = tenant ∨ o = silent

/-- The cluster. -/
def store : ClusterStore := { cluster := "east" }

/-- A session with a store in memory and a server without objects. -/
def start : Session := { secrets := [.empty] }

/-- Reads and writes of the three. -/
def calls : List StoreCall :=
  [.read database, .write database (.ofList [("user", [0, 255])]), .write tenant .empty,
   .write database (.ofList [("user", []), ("port", [1])]), .read database, .read tenant,
   .write silent .empty, .read silent]

/-- The answers to them. -/
def answers : List StoreAnswer :=
  [.found (.ok none), .written (.ok ()), .written (.ok ()), .written (.ok ()),
   .found (.ok (some (.ofList [("user", []), ("port", [1])]))), .found (.ok (some .empty)),
   .written (.error (.noDestination silent)), .found (.ok none)]

theorem separates : store.Separates owners where
  config o d ho hd := by
    rcases ho with rfl | rfl | rfl
    · cases hd
      decide
    · cases hd
      decide
    · cases hd
  ns o d ho hd := by
    rcases ho with rfl | rfl | rfl
    · decide
    · decide
    · cases hd
  name o d ho hd := by
    rcases ho with rfl | rfl | rfl
    · cases hd
      decide
    · cases hd
      decide
    · cases hd
  apart o o' d d' ho ho' hd hd' hns hname := by
    rcases ho with rfl | rfl | rfl
    · rcases ho' with rfl | rfl | rfl
      · rfl
      · exact absurd hns (by decide)
      · cases hd'
    · rcases ho' with rfl | rfl | rfl
      · exact absurd hns (by decide)
      · rfl
      · cases hd'
    · cases hd

end ThreeOwners

open ThreeOwners in
/-- The cluster answers them as the store in memory does. -/
theorem three_owners_agree :
    ((SecretStore.memory 0).answers ⟨[0]⟩ calls start).finish.map Prod.fst = some answers
      ∧ (store.toStore.answers ⟨[0]⟩ calls start).finish.map Prod.fst = some answers := by
  obtain ⟨given, m', c', hmemory, hcluster, -⟩ :=
    stores_agree separates (show 0 < start.secrets.length by decide) rfl rfl rfl
      (show Context.isCancelled ⟨[0]⟩ start = false from rfl) calls (by
        intro call hcall
        simp only [calls, List.mem_cons, List.not_mem_nil, or_false] at hcall
        rcases hcall with rfl | rfl | rfl | rfl | rfl | rfl | rfl | rfl
        · exact .inl rfl
        · exact .inl rfl
        · exact .inr (.inl rfl)
        · exact .inl rfl
        · exact .inl rfl
        · exact .inr (.inl rfl)
        · exact .inr (.inr rfl)
        · exact .inr (.inr rfl))
  have hanswers : ((SecretStore.memory 0).answers ⟨[0]⟩ calls start).finish.map Prod.fst
      = some answers := rfl
  rw [hmemory] at hanswers ⊢
  rw [hcluster]
  exact ⟨hanswers, hanswers⟩

end ConnectionRelay
