/-
  ConnectionRelay.Error
  ─────────────────────
  **WHAT GOES WRONG BETWEEN A RESOURCE AND A STORE.**

  A collaborator (a store, an updater) fails with a `Failure`: a root with any number
  of contexts around it, each a sentence about what was being done.  The relay turns
  it into a `ConnectionError`.  Main statement: the error is `cancelled` exactly when
  the root is, and otherwise it wraps the failure, so it is worth a retry
  (`ConnectionError.ofFailure`).
-/
import ConnectionRelay.Declaration
import ConnectionRelay.Destination

namespace ConnectionRelay

/-! ## §1. Errors and failures. -/

mutual

/-- An error of the relay. -/
inductive ConnectionError where
  /-- The composition is for another type of composite. -/
  | compositionMismatch (expected actual : TypeReference)
  /-- A declaration that copies a key of the secret names no key. -/
  | missingKeyReference (type : DetailType)
  /-- A connection secret cannot be read. -/
  | fetchSecret (cause : Failure)
  /-- Details cannot be written to a store. -/
  | publish (cause : Failure)
  /-- A composite cannot be stored. -/
  | updateComposite (cause : Failure)
  /-- The operation was cancelled. -/
  | cancelled

/-- The failure of a collaborator. -/
inductive Failure where
  /-- A sentence. -/
  | plain (message : String)
  /-- An error of the relay itself. -/
  | relay (error : ConnectionError)
  /-- An error of the relay, carried inside the error of a fetch or a publish. -/
  | carried (error : ConnectionError)
  /-- A failure, and what was being done. -/
  | context (doing : String) (inner : Failure)

end

instance : Inhabited ConnectionError := ⟨.cancelled⟩
instance : Inhabited Failure := ⟨.plain ""⟩

/-! ## §2. Texts. -/

mutual

/-- The text of an error. -/
def ConnectionError.message : ConnectionError → String
  | .compositionMismatch expected actual =>
      "referenced composition is not compatible with this composite resource: "
        ++ "composition expects " ++ expected.apiVersion ++ ", Kind=" ++ expected.kind
        ++ ", got " ++ actual.apiVersion ++ ", Kind=" ++ actual.kind
  | .missingKeyReference type =>
      "connection detail of type " ++ type.name ++ " key is not set"
  | .fetchSecret cause => "cannot fetch connection secret: " ++ cause.message
  | .publish cause => "cannot publish connection details: " ++ cause.message
  | .updateComposite cause => "cannot update composite resource: " ++ cause.message
  | .cancelled => "operation cancelled"

/-- The text of a failure: its outermost context. -/
def Failure.message : Failure → String
  | .plain message => message
  | .relay error => error.message
  | .carried error => error.message
  | .context doing _ => doing

end

mutual

/-- The texts of what led to an error, outermost first. -/
def ConnectionError.causes : ConnectionError → List String
  | .fetchSecret cause => cause.texts
  | .publish cause => cause.texts
  | .updateComposite cause => cause.texts
  | _ => []

/-- The texts of a failure and of what led to it, outermost first. -/
def Failure.texts : Failure → List String
  | .plain message => [message]
  | .relay error => error.message :: error.causes
  | .carried error => error.message :: error.message :: error.causes
  | .context doing inner => doing :: inner.texts

end

/-! ## §3. Classes of errors. -/

/-- The error at the root of a failure, if it is an error of the relay itself. -/
def Failure.root? : Failure → Option ConnectionError
  | .plain _ => none
  | .relay error => some error
  | .carried _ => none
  | .context _ inner => inner.root?

/-- Put contexts around a failure, the first one innermost. -/
def Failure.within (f : Failure) (contexts : List String) : Failure :=
  contexts.foldl (fun f c => .context c f) f

namespace ConnectionError

/-- Was the operation cancelled? -/
def isCancelled : ConnectionError → Bool
  | .cancelled => true
  | _ => false

/-- Is the error worth a retry?  Failures of collaborators are, wrong input and
cancellation are not. -/
def isRetryable : ConnectionError → Bool
  | .fetchSecret _ => true
  | .publish _ => true
  | .updateComposite _ => true
  | _ => false

/-- The error for the failure of a collaborator, unless it was cancelled itself. -/
def ofFailure (wrap : Failure → ConnectionError) (f : Failure) : ConnectionError :=
  match f.root? with
  | some .cancelled => .cancelled
  | _ => wrap f

end ConnectionError

end ConnectionRelay
