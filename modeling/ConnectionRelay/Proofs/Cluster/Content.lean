/-
  ConnectionRelay.Proofs.Cluster.Content
  ──────────────────────────────────────
  **THE CONTENT OF A SECRET.**

  Connection details are put into the data of a secret, its labels, its annotations and its
  type, and nothing else of the secret matters for what comes out.  So a secret with the
  details put in is compared with itself by its content alone.  Main statements:

    • `Secret.Content.apply_apply` — putting details in twice is putting them in at once,
    • `Secret.same_iff` — when putting details in leaves a secret as it is.
-/
import ConnectionRelay.Proofs.Cluster.StoredSecret

namespace ConnectionRelay

/-! ## §1. Everything is the same as itself. -/

namespace Json

mutual

theorem same_self : ∀ v : Json, same v v = true
  | .null => rfl
  | .bool b => beq_self_eq_true b
  | .num n => by cases n <;> simp [same, sameNumber]
  | .str s => beq_self_eq_true s
  | .arr items => sameItems_self items
  | .obj fields => sameFields_self fields

theorem sameItems_self : ∀ items : List Json, sameItems items items = true
  | [] => rfl
  | v :: vs => by
      rw [sameItems, same_self v, sameItems_self vs]
      rfl

theorem sameFields_self : ∀ fields : List (String × Json), sameFields fields fields = true
  | [] => rfl
  | (k, v) :: rest => by
      rw [sameFields, same_self v, sameFields_self rest, beq_self_eq_true]
      rfl

end

instance : ReflBEq Json := ⟨same_self _⟩

end Json

namespace Cluster

deriving instance ReflBEq for ManagedFields

end Cluster

namespace Cluster.Secret

/-! ## §2. The content of a secret. -/

/-- What connection details are put into. -/
structure Content where
  data : Option Details := none
  annotations : Option (Dict String) := none
  labels : Option (Dict String) := none
  type : Option String := none

/-- The content of a secret. -/
def content (s : Secret) : Content :=
  ⟨s.data, s.metadata.annotations, s.metadata.labels, s.type⟩

namespace Content

/-- The details in the content of a secret. -/
def details (c : Content) : Details := c.data.getD .empty

/-- Put details in, and what the destination puts there. -/
def apply (c : Content) (d : Destination) (details : Details) : Content where
  data := some (c.details.merge details)
  annotations := overlay c.annotations (d.metadata.bind (·.annotations))
  labels := overlay c.labels (d.metadata.bind (·.labels))
  type := (d.metadata.bind (·.type)).or c.type

/-- A table is overlaid once. -/
theorem overlay_overlay (into above : Option (Dict String)) :
    overlay (overlay into above) above = overlay into above := by
  cases above with
  | none => rfl
  | some entries =>
      show some (((into.getD .empty).merge entries).merge entries)
        = some ((into.getD .empty).merge entries)
      rw [Dict.merge_eq_left_iff.2 fun k v hk => by rw [Dict.get?_merge, hk]; rfl]

/-- **Putting details in twice** is putting them in at once. -/
theorem apply_apply (c : Content) (d : Destination) (first second : Details) :
    (c.apply d first).apply d second = c.apply d (first.merge second) := by
  have htype (o : Option String) : o.or (o.or c.type) = o.or c.type := by
    cases o <;> rfl
  unfold apply
  rw [overlay_overlay, overlay_overlay, htype]
  exact congrArg (fun data => Content.mk (some data) _ _ _) (Dict.merge_assoc _ _ _)

/-- Putting in what is there changes nothing. -/
theorem apply_apply_of_there {c : Content} {d : Destination} {first second : Details}
    (h : ∀ k v, second.get? k = some v → (c.details.merge first).get? k = some v) :
    (c.apply d first).apply d second = c.apply d first := by
  have hdetails : c.details.merge (first.merge second) = c.details.merge first := by
    rw [← Dict.merge_assoc, Dict.merge_eq_left_iff.2 h]
  rw [apply_apply, apply, hdetails]
  rfl

end Content

/-- Details are put into the content of a secret. -/
@[simp] theorem content_apply (s : Secret) (d : Destination) (details : Details) :
    (s.apply d details).content = s.content.apply d details := by
  obtain ⟨name, configRef, extra⟩ := d
  cases extra <;> rfl

/-! ## §3. Secrets compared. -/

/-- **A secret with the details put in** is compared with itself by its content. -/
theorem same_iff {s : Secret} {d : Destination} {details : Details} :
    (s.apply d details == s) = true ↔ s.content.apply d details = s.content := by
  obtain ⟨name, configRef, extra⟩ := d
  have hsecret (a b : Secret) : (a == b) = instBEqSecret.beq a b := rfl
  have hmetadata (a b : ObjectMeta) : (a == b) = instBEqObjectMeta.beq a b := rfl
  -- all fields but those of the content are compared with themselves
  unfold content Content.apply
  rw [Content.mk.injEq]
  simp only [hsecret, instBEqSecret.beq, hmetadata, instBEqObjectMeta.beq, Secret.apply,
    Bool.and_eq_true, beq_self_eq_true, beq_iff_eq, true_and, and_true, and_assoc]
  cases extra <;> rfl

/-- A secret that putting details in does not change has these details. -/
theorem details_of_same {s : Secret} {d : Destination} {details : Details}
    (h : (s.apply d details == s) = true) : s.details.merge details = s.details :=
  congrArg Content.details (same_iff.1 h)

end Cluster.Secret

end ConnectionRelay
