/-
  ConnectionRelay.Proofs.Configuring.Refreshed
  ────────────────────────────────────────────
  **A CONFIGURED COMPOSITE IS WHAT THE SERVER ANSWERED.**

  A call that succeeds with the updater of a cluster replaces the composite as a whole by
  the server's answer, and does not look for the destination in it.  So the composite stays
  configured, and later calls have nothing to do, exactly when the answer has a destination
  and is still of the composition's type; a server that prunes the destination is asked
  again by every call.  Main statement: `configured_iff_answered`.
-/
import ConnectionRelay.Proofs.Cluster.ReadResource
import ConnectionRelay.Proofs.Configuring.ClusterUpdate

namespace ConnectionRelay

open Cluster

/-! ## §1. The destination in an answer. -/

/-- What an object says of its destination, `null` if it says nothing. -/
def Cluster.DynamicObject.destination (o : DynamicObject) : Json :=
  ((o.data.get? "spec").getD .null).field "publishConnectionDetailsTo"

theorem Cluster.DynamicObject.field_spec (o : DynamicObject) :
    o.toJson.field "spec" = (o.data.get? "spec").getD .null := by
  have hfield : o.toJson.field "spec" = (o.toDict.get? "spec").getD .null := rfl
  rw [hfield]
  unfold toDict
  rw [Dict.get?_merge]
  cases o.types <;> simp [Dict.get?_insert, Dict.ofList, Dict.insertMany]

/-- A resource has a destination where the object that it was made of has one. -/
theorem Resource.destination_of_ofDynamic {o : DynamicObject} {r : Resource}
    (h : Resource.ofDynamic o = .ok r) : r.destination = none ↔ o.destination = .null := by
  rw [destination_of_decode h, DynamicObject.field_spec]
  rfl

/-! ## §2. Calls that succeed. -/

/-- **A configured composite is what the server answered.**  If a composite without a
destination is configured by a composition with a default store, and the updater is that of
a cluster, then one request was sent and the composite is the object of the answer.  It has
a destination exactly when the answer has one.  Every later call with the composition does
nothing and returns no error, in any context and with any updater, exactly when the
composite has a destination and the composition's type; without a destination every later
call stores the composite again. -/
theorem configured_iff_answered {cluster store : String} {ctx : Context}
    {composition : CompositionSpec} {before after : Session × Resource}
    {changes : List ((Session × Resource) × (Session × Resource))}
    (hends : (Configurator.configure (.ofCluster cluster) ctx composition before).Ends changes
      (.ok ()) after)
    (halone : CompositeTask.LeftAlone changes) (hstore : composition.defaultStore = some store)
    (hnone : before.2.destination = none) :
    ∃ request response stored,
      Configurator.Refreshed cluster store before after changes request response stored
        ∧ (after.2.destination ≠ none ↔ stored.destination ≠ .null)
        ∧ ((after.2.destination ≠ none ∧ composition.appliesTo after.2.type = true)
            ↔ ∀ updater ctx s, Configurator.configure updater ctx composition (s, after.2)
                = .done (.ok ()) (s, after.2))
        ∧ (after.2.destination = none → composition.appliesTo after.2.type = true →
            ∀ updater ctx s, ctx.isCancelled s = false →
              Configurator.configure updater ctx composition (s, after.2)
                = Configurator.persist updater ctx (Configurator.assigned store (s, after.2))) := by
  obtain ⟨request, response, stored, hrefreshed⟩ :=
    Configurator.exists_refreshed hends halone hstore hnone
  refine ⟨request, response, stored, hrefreshed, ?_, ?_, ?_⟩
  · exact not_congr (Resource.destination_of_ofDynamic hrefreshed.refreshed)
  · rw [← Configurator.settled_iff]
    constructor
    · rintro ⟨hsome, htype⟩
      exact ⟨htype, .inr hsome⟩
    · rintro ⟨htype, hunset | hsome⟩
      · rw [hunset] at hstore
        cases hstore
      · exact ⟨hsome, htype⟩
  · intro hunset htype updater ctx s hactive
    exact Configurator.configure_of_unset hstore htype hunset hactive updater

/-! ## §3. A server that keeps the destination, and one that prunes it. -/

namespace Sample

/-- A session with a server that answers two requests in the same way. -/
def answering (d : Option Destination) : Session :=
  { servers := .ofList [("east",
      { script :=
          [some { answer := some (accepting d) }, some { answer := some (accepting d) }] })] }

end Sample

open Sample in
/-- After an answer with the destination nothing is left to be done. -/
theorem configured_for_good :
    ∃ left s, (Configurator.configure (.ofCluster "east") ⟨[0]⟩ composition
          (answering kept, composite)).Ends [(left, (answering kept, left.2))] (.ok ())
          (s, stored kept)
      ∧ ∀ updater ctx s, Configurator.configure updater ctx composition (s, stored kept)
          = .done (.ok ()) (s, stored kept) := by
  have hstore : composition.defaultStore = some "default" := rfl
  have hactive : (⟨[0]⟩ : Context).isCancelled (answering kept) = false := rfl
  obtain ⟨left, s, hends⟩ := ends_kept hactive hactive fun request => rfl
  obtain ⟨request, response, object, hcall, hsame, hidle, -⟩ :=
    configured_iff_answered hends (List.forall_mem_singleton.2 rfl) hstore rfl
  have hkept : (stored kept).destination ≠ none := by decide
  have htype : composition.appliesTo (stored kept).type = true := by decide
  exact ⟨left, s, hends, hidle.1 ⟨hkept, htype⟩⟩

open Sample in
/-- After an answer without the destination the composite has none, and the next call sends
the request again and counts the composite once more. -/
theorem configured_again :
    ∃ s₁ s₂, (Configurator.configure (.ofCluster "east") ⟨[0]⟩ composition
          (answering none, composite)).finish = some (.ok (), (s₁, stored none))
      ∧ (stored none).destination = none
      ∧ (Configurator.configure (.ofCluster "east") ⟨[0]⟩ composition (s₁, stored none)).finish
          = some (.ok (), (s₂, stored none))
      ∧ (s₂.requestsSince s₁ "east").length = 1
      ∧ s₂.counters.configured = s₁.counters.configured + 1 :=
  ⟨_, _, rfl, rfl, rfl, rfl, rfl⟩

end ConnectionRelay
