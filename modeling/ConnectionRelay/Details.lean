/-
  ConnectionRelay.Details
  ───────────────────────
  **CONNECTION DETAILS.**

  Details are a table from keys to opaque values.  Later details win when tables are
  merged (`Dict.merge`).
-/
import ConnectionRelay.Bytes
import ConnectionRelay.Dict
import ConnectionRelay.Error

namespace ConnectionRelay

/-- Connection details: keys and opaque values. -/
abbrev Details := Dict Bytes

/-- All details of a list, later ones winning. -/
def Details.mergeAll (ds : List Details) : Details := ds.foldl Dict.merge .empty

/-- Merge details that may not be there. -/
def Details.mergeSome (d : Details) : Option Details → Details
  | none => d
  | some more => d.merge more

/-- The data of a secret after details were put in. -/
def overwrite (data : Option Details) (details : Details) : Option Details :=
  some ((data.getD .empty).merge details)

theorem get?_overwrite (data : Option Details) (details : Details) (k : String) :
    (overwrite data details).bind (·.get? k) = (details.get? k).or (data.bind (·.get? k)) := by
  cases data <;> simp [overwrite]

/-- A failed fetch, with the details gathered before it. -/
structure FetchError where
  source : ConnectionError
  gathered : Option Details := none

/-- A failed publish. -/
structure PublishError where
  source : ConnectionError
  /-- Was anything published before the failure? -/
  published : Bool := false

end ConnectionRelay
