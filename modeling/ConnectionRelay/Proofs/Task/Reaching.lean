/-
  ConnectionRelay.Proofs.Task.Reaching
  ────────────────────────────────────
  **HOW FAR A TASK HAS COME.**

  A task need not have ended when something is asked about it: it may be suspended, and
  may stay so for ever.  `Progress.Reaches` says how far it has come, for what others did
  at each of its suspensions so far.  Main statements:

    • `Reaches.keeps` — what each turn keeps is kept however far the task has come,
    • `reaches_done_iff` — a task ends by coming to its end.
-/
import ConnectionRelay.Proofs.Task.Ending
import ConnectionRelay.Proofs.Task.Interleaving

namespace ConnectionRelay

variable {σ α : Type}

namespace Progress

/-- A task has come to where another one would start.  Each of the changes is what others
did while the task was suspended, as for `Ends`. -/
inductive Reaches : Progress σ α → List (σ × σ) → Progress σ α → Prop where
  | here (p : Progress σ α) : Reaches p [] p
  | turn {p p' q : Progress σ α} {found : σ} {changes : List (σ × σ)}
      (hresumes : p.resume? found = some p') (h : Reaches p' changes q) :
      Reaches p ((p.state, found) :: changes) q

/-- **What each turn keeps is kept.**  Something is kept about the turns that a task has
had and about where they have brought it; a turn adds itself to the turns. -/
theorem Reaches.keeps {p q : Progress σ α} {changes : List (σ × σ)}
    (stage : List (σ × σ) → Progress σ α → Prop)
    (hturn : ∀ own p found p', stage own p → p.resume? found = some p' →
      stage (own ++ [(found, p'.state)]) p')
    (h : p.Reaches changes q) {own : List (σ × σ)} {start : σ}
    (hstart : stage (own ++ [(start, p.state)]) p) :
    stage (own ++ turns start changes q.state) q := by
  -- on the turns from the first one, with those before them left general
  induction h generalizing own start with
  | here p => exact hstart
  | @turn p p' q found changes hresumes _ ih =>
      have hnext := ih (hturn _ _ _ _ hstart hresumes)
      rw [List.append_assoc] at hnext
      exact hnext

/-- Where a suspended task comes to when it is resumed in the state that it has left. -/
def resumed (p : Progress σ α) : Progress σ α := (p.resume? p.state).getD p

theorem resume?_state {p : Progress σ α} (h : (p.resume? p.state).isSome = true) :
    p.resume? p.state = some p.resumed := by
  obtain ⟨p', hp'⟩ := Option.isSome_iff_exists.1 h
  rw [resumed, hp', Option.getD_some]

/-- Has a task ended with a value that is no failure? -/
def succeeded {ε : Type} : Progress σ (Except ε α) → Bool
  | .done (.ok _) _ => true
  | _ => false

theorem succeeded_iff {ε : Type} {p : Progress σ (Except ε α)} :
    p.succeeded = true ↔ ∃ a s, p = .done (.ok a) s := by
  constructor
  · intro h
    unfold succeeded at h
    split at h
    · exact ⟨_, _, rfl⟩
    · cases h
  · rintro ⟨a, s, rfl⟩
    rfl

/-- A task ends by coming to its end. -/
theorem reaches_done_iff {p : Progress σ α} {changes : List (σ × σ)} {a : α} {s : σ} :
    p.Reaches changes (.done a s) ↔ p.Ends changes a s := by
  constructor
  · intro h
    generalize hq : Progress.done a s = q at h
    induction h with
    | here p =>
        subst hq
        exact .done a s
    | @turn p p' q found changes hresumes _ ih =>
        cases p with
        | done b t => cases hresumes
        | never t => cases hresumes
        | paused left resume =>
            cases hresumes
            exact .paused (ih hq)
        | waiting left released resume =>
            simp only [resume?, Option.ite_none_right_eq_some, Option.some.injEq] at hresumes
            obtain ⟨hreleased, rfl⟩ := hresumes
            exact .waiting hreleased (ih hq)
  · intro h
    induction h with
    | done a s => exact .here _
    | paused _ ih => exact .turn rfl ih
    | waiting hreleased _ ih => exact .turn (if_pos hreleased) ih

end Progress

end ConnectionRelay
