/-
  ConnectionRelay.Script
  ──────────────────────
  **COLLABORATORS THAT FOLLOW A SCRIPT.**

  A scripted collaborator does at each call what the next outcome of its script says:
  it may cancel a context, never answer, or be suspended once, and then it gives the
  result of the outcome.  Past the end of its script it gives a default result.  Every
  script has a number of its own, under which its calls are counted.
-/
import ConnectionRelay.Fetcher
import ConnectionRelay.Publisher
import ConnectionRelay.Updater

namespace ConnectionRelay

/-- What a scripted collaborator does at one call. -/
structure Outcome (α : Type) where
  /-- The context to cancel first. -/
  cancel : Option String := none
  /-- Never answer. -/
  hang : Bool := false
  /-- Be suspended once. -/
  pause : Bool := false
  result : α

/-- A script: the outcomes of the calls, in order. -/
abbrev Script (α : Type) := List (Outcome α)

/-- Follow a script at the next call. -/
def Script.call {α : Type} (script : Script α) (id : Nat) (default : α) : Operation α := do
  let s ← Task.get
  let outcome := script[s.callsOf id]?.getD { result := default }
  Task.modify fun s => (s.note (.called id)).cancelNamed outcome.cancel
  if outcome.hang then Task.hang
  else do
    if outcome.pause then Task.pause
    pure outcome.result

/-- A store that follows one script for reads and one for writes. -/
def SecretStore.scripted (readId writeId : Nat)
    (reads : Script (Except Failure (Option Details))) (writes : Script (Except Failure Unit)) :
    SecretStore where
  read _ _ := reads.call readId (.ok none)
  write _ _ _ := writes.call writeId (.ok ())

/-- A fetcher that follows a script. -/
def Fetcher.scripted (id : Nat) (script : Script (Except FetchError (Option Details))) :
    Fetcher :=
  fun _ _ _ => script.call id (.ok none)

/-- A publisher that follows a script. -/
def Publisher.scripted (id : Nat) (script : Script (Except PublishError Bool)) : Publisher :=
  fun _ _ _ => script.call id (.ok false)

/-- What a scripted updater does: it may refresh the composite, with what may turn out
to be no resource, before it gives its result. -/
structure Update where
  refresh : Option (Except Wire.DecodeError Resource) := none
  result : Except Failure Unit := .ok ()

/-- An updater that follows a script. -/
def Updater.scripted (id : Nat) (script : Script Update) : Updater := fun _ => do
  let update ← Task.onFirst (script.call id {})
  match update.refresh with
  | some (.error e) => pure (.error (.plain e.message))
  | some (.ok r) => do
      CompositeTask.setComposite r
      pure update.result
  | none => pure update.result

end ConnectionRelay
