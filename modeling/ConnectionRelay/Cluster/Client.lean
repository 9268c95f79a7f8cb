/-
  ConnectionRelay.Cluster.Client
  ──────────────────────────────
  **READING AND WRITING OBJECTS OF A CLUSTER.**

  The three requests the relay makes.  Each one fails without telling why: its target
  cannot be sent, the connection breaks, the server refuses, or the answer is not the
  object.  Only for a read does one refusal matter, the one that says that the object
  is not there.  What a failed request does not tell, it logs.
-/
import ConnectionRelay.Cluster.Status
import ConnectionRelay.Session
import ConnectionRelay.Wire.Document

namespace ConnectionRelay.Cluster

/-! ## §1. Refusals. -/

/-- The body of a refusal. -/
structure Refusal where
  status : String := ""
  message : String := ""
  reason : String := ""
  code : Nat := 0
  deriving DecidableEq, Repr

namespace Refusal

/-- The wire form of refusals. -/
def shape : Wire.Shape Refusal :=
  .plain "ErrorResponse"
    [.required "status" Wire.text fun r v => { r with status := v },
     .defaulted "message" Wire.text fun r v => { r with message := v },
     .defaulted "reason" Wire.text fun r v => { r with reason := v },
     .required "code" Wire.uint16 fun r v => { r with code := v }]

/-- The refusal that stands for a body that is none. -/
def ofText (status : Nat) (body : String) : Refusal :=
  { status := Status.describe status, message := Text.quoted body,
    reason := "Failed to parse error data", code := status }

/-- What a refusal looks like in log lines. -/
def describe (r : Refusal) : String :=
  "ErrorResponse \x7b status: " ++ Text.quoted r.status ++ ", message: "
    ++ Text.quoted r.message ++ ", reason: " ++ Text.quoted r.reason ++ ", code: "
    ++ toString r.code ++ " \x7d"

end Refusal

/-- The body of a response as text. -/
def Response.bodyText (r : Response) : String :=
  match r.body with
  | .json v => v.render
  | .text s => s

/-- Decode the body of a response, which has been sent as text. -/
def Response.decode {α : Type} (d : Wire.Decoder α) (r : Response) :
    Except Wire.DecodeError α :=
  match r.body with
  | .json v => d.value v.sent
  | .text s => d.document s

/-- The refusal of a response. -/
def Response.refusal? (r : Response) : Option Refusal :=
  match r.decode (Refusal.shape.decode {}) with
  | .ok refusal => some refusal
  | .error _ => none

/-- Does a refusal say that the object is not there? -/
def Response.isNotFound (r : Response) : Bool :=
  r.refusal?.any fun refusal => refusal.reason == "NotFound"

/-! ## §2. Requests. -/

/-- The object of an answer. -/
def Response.object? {α : Type} (d : Wire.Decoder α) (r : Response) : Option α :=
  if r.isError then none
  else
    match r.decode d with
    | .ok a => some a
    | .error _ => none

/-- What is logged of a body that is not the object: the text, why it is not, and
where. -/
def Response.complaint {α : Type} (d : Wire.Decoder α) (r : Response) : String :=
  match d.read r.bodyText with
  | .ok _ => r.bodyText
  | .error stop =>
      let place := stop.place r.bodyText
      r.bodyText ++ ", Error(" ++ Text.quoted stop.cause.message ++ ", line: "
        ++ toString place.line ++ ", column: " ++ toString place.column ++ ")"

/-- What is logged of an answer: a refusal, a body that should be one, or a body that
should be the object. -/
def Response.remarks {α : Type} (d : Wire.Decoder α) (r : Response) : List LogLine :=
  let line (level : Level) (message : String) : LogLine :=
    { level, origin := .client, message }
  if r.isError then
    match r.refusal? with
    | some refusal => [line .debug ("Unsuccessful: " ++ refusal.describe)]
    | none =>
        [line .warn ("Unsuccessful data error parse: " ++ r.bodyText),
         line .debug ("Unsuccessful: " ++ (Refusal.ofText r.status r.bodyText).describe
           ++ " (reconstruct)")]
  else
    match r.object? d with
    | some _ => []
    | none => [line .warn (r.complaint d)]

namespace Client

variable {α : Type}

/-- The name under which the relay writes. -/
def fieldManager : String := "composite-connection"

/-- What is added to the target of a write, so that the cluster knows who wrote. -/
def writeQuery : String := "?&fieldManager=" ++ fieldManager

/-- The request that reads an object; an object without a name cannot be asked for. -/
def readRequest? (path name : String) : Option Request :=
  if name = "" then none
  else (Target.parse? (path ++ "/" ++ name)).map fun target => ⟨.get, target, none⟩

/-- The request that creates an object. -/
def createRequest? (path : String) (body : Json) : Option Request :=
  (Target.parse? (path ++ writeQuery)).map fun target => ⟨.post, target, some body⟩

/-- The request that replaces an object. -/
def replaceRequest? (path name : String) (body : Json) : Option Request :=
  if name = "" then none
  else
    (Target.parse? (path ++ "/" ++ name ++ writeQuery)).map fun target =>
      ⟨.put, target, some body⟩

/-- What a read finds. -/
def readAnswer (d : Wire.Decoder α) (r : Response) : Option (Option α) :=
  if r.isError then (if r.isNotFound then some none else none)
  else (r.object? d).map some

/-- Send a request, if there is one, and look at the answer. -/
def ask {β : Type} (cluster : String) (request : Option Request) (d : Wire.Decoder α)
    (look : Response → Option β) : Operation (Option β) := do
  match request with
  | none => pure none
  | some request =>
      match ← Operation.send cluster request with
      | none => pure none
      | some response => do
          Task.modify fun s => s.log (response.remarks d)
          pure (look response)

/-- Read an object: `none` is a failure, `some none` an object that is not there. -/
def read (cluster path name : String) (d : Wire.Decoder α) : Operation (Option (Option α)) :=
  ask cluster (readRequest? path name) d (readAnswer d)

/-- Create an object; the answer is the object as it was stored. -/
def create (cluster path : String) (body : Json) (d : Wire.Decoder α) : Operation (Option α) :=
  ask cluster (createRequest? path body) d (·.object? d)

/-- Replace an object; the answer is the object as it was stored. -/
def replace (cluster path name : String) (body : Json) (d : Wire.Decoder α) :
    Operation (Option α) :=
  ask cluster (replaceRequest? path name body) d (·.object? d)

end Client

end ConnectionRelay.Cluster
