/-
  ConnectionRelay.Proofs.Cluster.ReadResource
  ───────────────────────────────────────────
  **WHAT A RESOURCE SAYS THAT WAS READ.**

  Resources and their specs keep fields that they do not know, and refuse to repeat those
  that they do know.  So a resource that was read has the destination that its document
  names, wherever the field stands.  Main statement:

    • `destination_of_decode` — a resource has no destination exactly when the document has
      none, or `null` in its place.
-/
import ConnectionRelay.Proofs.Wire.Record
import ConnectionRelay.Resource

namespace ConnectionRelay

open Wire

/-! ## §1. The spec. -/

namespace ConnectionSpec

theorem owns_destination : shape.Owns destination "publishConnectionDetailsTo" := by
  intro f hf hne v g s hg
  simp only [shape, Shape.extensible, List.mem_cons, List.not_mem_nil, or_false] at hf
  rcases hf with rfl | rfl
  · exact absurd rfl hne
  · obtain ⟨o, -, rfl⟩ := Field.update_defaulted hg
    rfl

theorem spares_destination : shape.Spares destination := by
  rintro put ⟨⟩ k v s
  rfl

/-- A spec names a destination where its document does. -/
theorem destination_of_decode {v : Json} {s : ConnectionSpec} (h : decode.value v = .ok s) :
    s.destination = none ↔ v.field "publishConnectionDetailsTo" = .null := by
  have hobj := Shape.obj_of_take rfl h
  rw [hobj] at h ⊢
  have hsays := Shape.take_says_unrepeated owns_destination spares_destination rfl rfl h
  show _ ↔ (Entries.find? _ v.fields).getD .null = .null
  cases hf : Entries.find? "publishConnectionDetailsTo" v.fields with
  | none =>
      rw [hf] at hsays
      exact ⟨fun _ => rfl, fun _ => hsays⟩
  | some w =>
      rw [hf] at hsays
      obtain ⟨g, s₀, hg, hs⟩ := hsays
      obtain ⟨o, ho, rfl⟩ := Field.update_defaulted hg
      have hdestination : s.destination = o := hs
      rw [hdestination]
      exact option_eq_none_iff ho

end ConnectionSpec

/-! ## §2. The resource. -/

namespace Resource

theorem owns_spec : shape.Owns Partial.spec "spec" := by
  intro f hf hne v g s hg
  simp only [shape, Shape.extensible, List.mem_cons, List.not_mem_nil, or_false] at hf
  rcases hf with rfl | rfl | rfl
  case inr.inl => exact absurd rfl hne
  all_goals
    obtain ⟨o, -, rfl⟩ := Field.update_defaulted hg
    rfl

theorem spares_spec : shape.Spares Partial.spec := by
  rintro put ⟨⟩ k v p
  rfl

/-- A resource has the spec of the fields that were read. -/
theorem exists_partial_of_decode {v : Json} {r : Resource} (h : decode.value v = .ok r) :
    ∃ p, shape.take {} v = .ok p ∧ r.spec = p.spec := by
  have hvalue : decode.value v = (do
      let p ← shape.take {} v
      let type ← typeShape.take ⟨"", ""⟩ (.obj p.others)
      pure { type, metadata := p.metadata, spec := p.spec, status := p.status }) := rfl
  rw [hvalue] at h
  cases hp : shape.take {} v with
  | error e => simp [hp, bind, Except.bind] at h
  | ok p =>
      cases htype : typeShape.take ⟨"", ""⟩ (.obj p.others) with
      | error e => simp [hp, htype, bind, Except.bind] at h
      | ok type =>
          simp only [hp, htype, bind, Except.bind, pure, Except.pure, Except.ok.injEq] at h
          exact ⟨p, rfl, by rw [← h]⟩

/-- **A resource has a destination where its document has one.** -/
theorem destination_of_decode {v : Json} {r : Resource} (h : decode.value v = .ok r) :
    r.destination = none ↔ (v.field "spec").field "publishConnectionDetailsTo" = .null := by
  obtain ⟨p, htake, hspec⟩ := exists_partial_of_decode h
  have hobj := Shape.obj_of_take rfl htake
  rw [hobj] at htake ⊢
  have hsays := Shape.take_says_unrepeated owns_spec spares_spec rfl rfl htake
  have hfield : (Json.obj v.fields).field "spec" = (Entries.find? "spec" v.fields).getD .null := rfl
  rw [destination, hspec, hfield]
  cases hf : Entries.find? "spec" v.fields with
  | none =>
      rw [hf] at hsays
      have hempty : p.spec = {} := hsays
      rw [hempty]
      exact ⟨fun _ => rfl, fun _ => rfl⟩
  | some w =>
      rw [hf] at hsays
      obtain ⟨g, p₀, hg, hp⟩ := hsays
      obtain ⟨spec, hread, rfl⟩ := Field.update_defaulted hg
      have hsame : p.spec = spec := hp
      rw [hsame]
      exact ConnectionSpec.destination_of_decode hread

end Resource

end ConnectionRelay
