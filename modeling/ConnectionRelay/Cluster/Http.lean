/-
  ConnectionRelay.Cluster.Http
  ────────────────────────────
  **REQUESTS TO A CLUSTER.**

  A request goes to a target: a path, and after a question mark a query.  Names are
  put into targets as they are, so a target may hold characters that no request can
  carry; such a request is never sent.  A number sign ends the target.
-/
import ConnectionRelay.Json.Sent

namespace ConnectionRelay.Cluster

/-! ## §1. Targets. -/

/-- The characters of a path. -/
def isPathChar (c : Char) : Bool :=
  let n := c.toNat
  n == 0x21 || n == 0x22 || (0x24 ≤ n && n ≤ 0x3B) || n == 0x3D
    || (0x40 ≤ n && n ≤ 0x5F) || (0x61 ≤ n && n ≤ 0x7E) || 0x80 ≤ n

/-- The characters of a query. -/
def isQueryChar (c : Char) : Bool :=
  let n := c.toNat
  n == 0x21 || (0x24 ≤ n && n ≤ 0x3B) || n == 0x3D || (0x3F ≤ n && n ≤ 0x7E) || 0x80 ≤ n

/-- The longest target that can be sent, in bytes. -/
def targetLimit : Nat := 65534

/-- The target of a request. -/
structure Target where
  path : String
  /-- What follows the question mark, if there is one. -/
  query : Option String
  deriving DecidableEq, Repr

namespace Target

/-- The target of a text, unless it holds a character that cannot be sent. -/
def parse? (text : String) : Option Target :=
  let cs := text.toList.takeWhile (· ≠ '#')
  let path := cs.takeWhile (· ≠ '?')
  let query := cs.dropWhile (· ≠ '?')
  if targetLimit < text.utf8ByteSize then none
  else if !path.all isPathChar then none
  else
    match query with
    | [] => some ⟨String.ofList path, none⟩
    | _ :: q =>
        if q.all isQueryChar then some ⟨String.ofList path, some (String.ofList q)⟩ else none

/-- The text of a target. -/
def render (t : Target) : String :=
  match t.query with
  | none => t.path
  | some q => t.path ++ "?" ++ q

end Target

/-! ## §2. Requests and responses. -/

/-- What a request does. -/
inductive Method where
  /-- Read an object. -/
  | get
  /-- Create an object. -/
  | post
  /-- Replace an object. -/
  | put
  deriving DecidableEq, Repr

/-- A request. -/
structure Request where
  method : Method
  target : Target
  /-- The object sent along; a read sends none. -/
  body : Option Json

/-- The request as the server gets it: the body has been sent as text. -/
def Request.arrived (r : Request) : Request := { r with body := r.body.map Json.sent }

/-- The body of a response. -/
inductive Body where
  /-- The text of a value. -/
  | json (value : Json)
  /-- Any text. -/
  | text (text : String)

/-- A response. -/
structure Response where
  status : Nat
  body : Body

namespace Response

/-- Does the status stand for a failure? -/
def isError (r : Response) : Bool := 400 ≤ r.status && r.status < 600

end Response

end ConnectionRelay.Cluster
