/-
  ConnectionRelay.Proofs.Store.SuccessiveWrites
  ─────────────────────────────────────────────
  **SUCCESSIVE WRITES FUSE.**

  Two writes to a quiet cluster, one after the other, leave what one write of the merged
  details leaves, whatever was there before: no secret, or one of any content that anybody
  has stored.  The first write turns tables that are absent into tables that are there, and
  may create the secret; what it has written is read back by the second one.  Main
  statements:

    • `content_of_write` — one write puts its details into the content of the secret,
    • `writes_fuse` — two writes.
-/
import ConnectionRelay.Proofs.Store.QuietCluster
import ConnectionRelay.Proofs.Store.WriteCourse

namespace ConnectionRelay

open Cluster

namespace ClusterStore

/-- The object at the place of an owner's secret. -/
def objectFor (store : ClusterStore) (owner : Owner) (d : Destination) (s : Session) :
    Option Json :=
  (s.serverOf store.cluster).objects.get? (Secret.place (store.namespaceOf owner) d.name)

variable {store : ClusterStore} {ctx : Context} {owner : Owner} {d : Destination} {s : Session}
  {first : Option Secret}

/-- The content of the secret that a reader has found; none was found in an empty one. -/
def contentOf (first : Option Secret) : Secret.Content := (first.map Secret.content).getD {}

/-- **One write** succeeds and puts its details into the content of the secret.  The server
goes on serving, under a context that is still active.  If the content does not change, the
write has only read it. -/
theorem content_of_write (hdestination : owner.destination = some d)
    (hns : isName (store.namespaceOf owner) = true) (hname : isName d.name = true)
    (hactive : ctx.isCancelled s = false) (hscript : (s.serverOf store.cluster).script = [])
    (hshows : Shows (store.objectFor owner d s) first) (details : Details) :
    ∃ s' written, (store.toStore.write ctx owner details s).finish = some (.ok (), s')
      ∧ ctx.isCancelled s' = false ∧ (s'.serverOf store.cluster).script = []
      ∧ Shows (store.objectFor owner d s') (some written)
      ∧ written.content = (contentOf first).apply d details
      ∧ ∀ found, first = some found → found.content.apply d details = found.content →
          s.sentSince s' = [(store.cluster, readRequest (store.namespaceOf owner) d.name)] := by
  obtain ⟨s', hfinish, hserves, hleaves, hsent⟩ :=
    write_shown hdestination hns hname hactive hscript details hshows
  obtain ⟨written, hwritten, hcontent⟩ := hleaves.shows hshows
  have hfirst : (first.getD (Secret.ofName d.name (store.namespaceOf owner))).content
      = contentOf first := by
    cases first <;> rfl
  refine ⟨s', written, hfinish, ?_, hserves.script.trans hscript, hwritten, hfirst ▸ hcontent,
    fun found hfound hsame => hsent found hfound (Secret.same_iff.2 hsame)⟩
  rw [hserves.isCancelled_eq, hactive]

/-- **Successive writes fuse.**  Whatever is in a cluster that only serves, two writes for
one owner leave a secret of the same content (data, annotations, labels and type) as one
write of the merged details, of which the later ones win.  A read after them answers the
details from before, overwritten by the earlier and then by the later ones.  If all of the
later details are there after the first write, the second one only reads the secret. -/
theorem writes_fuse (hdestination : owner.destination = some d)
    (hns : isName (store.namespaceOf owner) = true) (hname : isName d.name = true)
    (hactive : ctx.isCancelled s = false) (hscript : (s.serverOf store.cluster).script = [])
    (hshows : Shows (store.objectFor owner d s) first) (earlier later : Details) :
    ∃ s₁ s₂ s₃ merged twice once,
      (store.toStore.write ctx owner earlier s).finish = some (.ok (), s₁)
      ∧ (store.toStore.write ctx owner later s₁).finish = some (.ok (), s₂)
      ∧ (store.toStore.write ctx owner (earlier.merge later) s).finish = some (.ok (), merged)
      ∧ Shows (store.objectFor owner d s₂) (some twice)
      ∧ Shows (store.objectFor owner d merged) (some once)
      ∧ twice.content = once.content
      ∧ (store.toStore.read ctx owner s₂).finish
          = some (.ok (some (((contentOf first).details.merge earlier).merge later)), s₃)
      ∧ ((∀ k v, later.get? k = some v →
            ((contentOf first).details.merge earlier).get? k = some v) →
          s₁.sentSince s₂
            = [(store.cluster, readRequest (store.namespaceOf owner) d.name)]) := by
  obtain ⟨s₁, written, hfinish₁, hactive₁, hscript₁, hshows₁, hcontent₁, -⟩ :=
    content_of_write hdestination hns hname hactive hscript hshows earlier
  obtain ⟨s₂, twice, hfinish₂, hactive₂, hscript₂, hshows₂, hcontent₂, hsent⟩ :=
    content_of_write hdestination hns hname hactive₁ hscript₁ hshows₁ later
  obtain ⟨merged, once, hmerged, -, -, hshows', honce, -⟩ :=
    content_of_write hdestination hns hname hactive hscript hshows (earlier.merge later)
  obtain ⟨s₃, -, -, hread⟩ := read_shown hdestination hns hname hactive₂ hscript₂ hshows₂
  -- the second write goes on from the content that the first one has left
  have htwice : twice.content = ((contentOf first).apply d earlier).apply d later := by
    rw [hcontent₂, ← hcontent₁]
    rfl
  refine ⟨s₁, s₂, s₃, merged, twice, once, hfinish₁, hfinish₂, hmerged, hshows₂, hshows', ?_, ?_,
    fun hthere => hsent written rfl ?_⟩
  · rw [htwice, honce, Secret.Content.apply_apply]
  · have hdetails : twice.details
        = ((contentOf first).details.merge earlier).merge later :=
      congrArg Secret.Content.details htwice
    rw [hread, Option.map_some, hdetails]
  · rw [hcontent₁, Secret.Content.apply_apply_of_there hthere]

namespace Sample

/-- What is read of the secret that others look after too. -/
def keptSecret : Secret :=
  { data := some (Dict.ofList [("user", [97, 100, 109, 105, 110])])
    metadata :=
      { finalizers := some ["example.org/keep"], name := some "conn", ns := some "team-a",
        resourceVersion := some "7" } }

theorem shows_kept : Shows (east.objectFor database labelled keptSession) (some keptSecret) := by
  refine @Shows.present kept keptSecret ⟨?_, ?_⟩ rfl
  · show List.Pairwise _ _
    decide
  · show List.Pairwise _ _
    decide

end Sample

open ClusterStore.Sample in
/-- A password is written twice, and the second write finds nothing to do. -/
theorem password_fuses :
    ∃ s₁ s₂ s₃, (east.toStore.write ⟨[0]⟩ database password keptSession).finish
        = some (.ok (), s₁)
      ∧ (east.toStore.write ⟨[0]⟩ database password s₁).finish = some (.ok (), s₂)
      ∧ (east.toStore.read ⟨[0]⟩ database s₂).finish
          = some (.ok (some (Dict.ofList
              [("password", [1, 2]), ("user", [97, 100, 109, 105, 110])])), s₃)
      ∧ s₁.sentSince s₂ = [("east", readRequest "team-a" "conn")] := by
  obtain ⟨s₁, s₂, s₃, merged, twice, once, hfirst, hsecond, -, -, -, -, hread, hsent⟩ :=
    @writes_fuse east ⟨[0]⟩ database labelled keptSession (some keptSecret) rfl (by decide)
      (by decide) rfl rfl shows_kept password password
  refine ⟨s₁, s₂, s₃, hfirst, hsecond, ?_, hsent fun k v hk => ?_⟩
  · rw [hread]
    rfl
  · rw [Dict.get?_merge, hk]
    rfl

end ClusterStore

end ConnectionRelay
