/-
  ConnectionRelay.Proofs.Wire.Records
  ───────────────────────────────────
  **WIRE TYPES THAT ARE READ BACK WHATEVER THEY HOLD.**

  References, destinations, declarations, templates and specifications are written as records
  of their declared fields.  All that they hold is written, so they are read back without a
  condition: each by one chain of rules along its record, in which the lemmas of the types
  inside it are used.  Main statements: `decode_toJson` of each type.
-/
import ConnectionRelay.Composition
import ConnectionRelay.Proofs.Wire.Undeclared
import ConnectionRelay.Resource

namespace ConnectionRelay

open Wire

/-! ## §1. Lists and needed fields. -/

namespace Wire

/-- A list is read back if its items are. -/
theorem list_value {α : Type} {d : Decoder α} {enc : α → Json} (as : List α)
    (h : ∀ a ∈ as, d.value (enc a) = .ok a) : (list d).value (.arr (as.map enc)) = .ok as := by
  show (as.map enc).mapM d.value = .ok as
  induction as with
  | nil => rfl
  | cons a as ih =>
      obtain ⟨hfirst, hrest⟩ := List.forall_mem_cons.1 h
      rw [List.map_cons, List.mapM_cons, hfirst, ih hrest]
      rfl

/-- Every field that is needed is there. -/
theorem Shape.needed_of_all {σ : Type} {shape : Shape σ} {fields : List (String × Option Json)}
    (h : (shape.fields.all fun f =>
      f.omissible || fields.any fun e => e.1 == f.name && e.2.isSome) = true) :
    ∀ f ∈ shape.fields, f.omissible = false → ∃ v, (f.name, some v) ∈ fields := by
  intro f hf hneeded
  have hthere := List.all_eq_true.1 h f hf
  rw [hneeded, Bool.false_or, List.any_eq_true] at hthere
  obtain ⟨⟨name, o⟩, hmem, he⟩ := hthere
  obtain ⟨hname, hsome⟩ := Bool.and_eq_true_iff.1 he
  obtain ⟨v, rfl⟩ := Option.isSome_iff_exists.1 hsome
  exact ⟨v, eq_of_beq hname ▸ hmem⟩

end Wire

/-! ## §2. References and destinations. -/

theorem Reference.decode_toJson (r : Reference) : decode.value r.toJson = .ok r := rfl

theorem SecretReference.decode_toJson (r : SecretReference) : decode.value r.toJson = .ok r := rfl

theorem TypeReference.decode_toJson (r : TypeReference) : decode.value r.toJson = .ok r := rfl

theorem SecretMetadata.decode_toJson (m : SecretMetadata) : decode.value m.toJson = .ok m := by
  refine Shape.take_record ?_ (Shape.needed_of_all rfl) ?_
  · show ["annotations", "labels", "type"].Nodup
    decide
  refine .optional m.annotations rfl (fun t _ => ⟨table_text_ofTexts t, nofun⟩) rfl ?_
  refine .optional m.labels rfl (fun t _ => ⟨table_text_ofTexts t, nofun⟩) rfl ?_
  exact .optional m.type rfl (fun t _ => ⟨rfl, nofun⟩) rfl (.nil _)

theorem Destination.decode_toJson (d : Destination) : decode.value d.toJson = .ok d := by
  refine Shape.take_record ?_ (Shape.needed_of_all rfl) ?_
  · show ["configRef", "metadata", "name"].Nodup
    decide
  refine .optional d.configRef rfl (fun r _ => ⟨r.decode_toJson, nofun⟩) rfl ?_
  refine .optional d.metadata rfl (fun m _ => ⟨m.decode_toJson, nofun⟩) rfl ?_
  exact .cons rfl rfl (.nil _)

/-! ## §3. Declarations and templates. -/

theorem DetailType.decode_toJson (t : DetailType) : decode.value t.toJson = .ok t := by
  show Except.ok (ofName t.name) = .ok t
  rw [ofName_name]

theorem Declaration.decode_toJson (d : Declaration) : decode.value d.toJson = .ok d := by
  refine Shape.take_record ?_ (Shape.needed_of_all rfl) ?_
  · show ["fromConnectionSecretKey", "fromFieldPath", "name", "type", "value"].Nodup
    decide
  refine .optional d.secretKey rfl (fun t _ => ⟨rfl, nofun⟩) rfl ?_
  refine .optional d.fieldPath rfl (fun t _ => ⟨rfl, nofun⟩) rfl ?_
  refine .optional d.name rfl (fun t _ => ⟨rfl, nofun⟩) rfl ?_
  refine .optional d.type rfl (fun t _ => ⟨t.decode_toJson, nofun⟩) rfl ?_
  exact .optional d.value rfl (fun t _ => ⟨rfl, nofun⟩) rfl (.nil _)

theorem Template.decode_toJson (t : Template) : decode.value t.toJson = .ok t := by
  have hdetails : (list Declaration.decode).value (.arr (t.details.map Declaration.toJson))
      = .ok t.details :=
    list_value t.details fun d _ => d.decode_toJson
  refine Shape.take_record ?_ (Shape.needed_of_all rfl) ?_
  · show ["base", "connectionDetails", "name"].Nodup
    decide
  refine .cons rfl rfl ?_
  refine .cons rfl (Decoder.value_map hdetails) ?_
  exact .optional t.name rfl (fun t _ => ⟨rfl, nofun⟩) rfl (.nil _)

/-! ## §4. Specifications of compositions. -/

theorem CompositionSpec.decode_toJson (c : CompositionSpec) : decode.value c.toJson = .ok c := by
  have htemplates : (list Template.decode).value (.arr (c.templates.map Template.toJson))
      = .ok c.templates :=
    list_value c.templates fun t _ => t.decode_toJson
  refine Shape.take_record ?_ (Shape.needed_of_all rfl) ?_
  · show ["compositeTypeRef", "publishConnectionDetailsWithStoreConfig", "resources",
      "writeConnectionSecretsToNamespace"].Nodup
    decide
  refine .cons rfl rfl ?_
  refine .optional c.defaultStore rfl (fun t _ => ⟨rfl, nofun⟩) rfl ?_
  refine .cons rfl (Decoder.value_map htemplates) ?_
  exact .optional c.secretsNamespace rfl (fun t _ => ⟨rfl, nofun⟩) rfl (.nil _)

end ConnectionRelay
