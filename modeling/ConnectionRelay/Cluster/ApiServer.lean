/-
  ConnectionRelay.Cluster.ApiServer
  ─────────────────────────────────
  **THE API SERVER OF A CLUSTER.**

  A server stores objects by path.  Every object it stores gets the next resource
  version.  It creates only what is not there, replaces only what is, and refuses a
  replacement that carries another resource version than the stored object.  A script
  of rules, one for each request, can make it misbehave.
-/
import ConnectionRelay.Cluster.Http

namespace ConnectionRelay.Cluster

/-! ## §1. Servers. -/

/-- What a server does with one request besides serving it. -/
structure Rule where
  /-- The context to cancel first. -/
  cancel : Option String := none
  /-- Never answer. -/
  hang : Bool := false
  /-- Break the connection. -/
  fail : Bool := false
  /-- Objects to store or, with no value, to remove before the request is served. -/
  before : List (String × Option Json) := []
  /-- What to answer in place of serving the request. -/
  answer : Option Response := none

/-- A server. -/
structure ApiServer where
  objects : Dict Json := .empty
  /-- The rules of the first requests. -/
  script : List (Option Rule) := []
  /-- How many requests it has taken. -/
  taken : Nat := 0
  /-- The number of the next resource version. -/
  nextVersion : Nat := 101
  /-- How the resource version of a number is written. -/
  versionText : Nat → String := toString

namespace ApiServer

/-! ## §2. Serving. -/

/-- The resource version in an object. -/
def versionOf (object : Json) : Json := (object.field "metadata").field "resourceVersion"

/-- An object with another resource version. -/
def withVersion (object : Json) (version : String) : Json :=
  object.setField "metadata"
    ((object.field "metadata").setField "resourceVersion" (.str version))

/-- The body of a refusal. -/
def refusal (code : Nat) (reason : String) : Response :=
  ⟨code, .json (.record
    [("apiVersion", some (.str "v1")), ("code", some (.num (.int code))),
     ("kind", some (.str "Status")), ("message", some (.str reason)),
     ("reason", some (.str reason)), ("status", some (.str "Failure"))])⟩

/-- Store an object under the next resource version. -/
def store (server : ApiServer) (path : String) (object : Json) (status : Nat) :
    Response × ApiServer :=
  let stored := withVersion object (server.versionText server.nextVersion)
  (⟨status, .json stored⟩,
    { server with
      objects := server.objects.insert path stored
      nextVersion := server.nextVersion + 1 })

/-- Serve a request. -/
def serve (server : ApiServer) (request : Request) : Response × ApiServer :=
  let path := request.target.path
  let body := request.body.getD .null
  match request.method with
  | .get =>
      match server.objects.get? path with
      | some object => (⟨200, .json object⟩, server)
      | none => (refusal 404 "NotFound", server)
  | .post =>
      let name := ((body.field "metadata").field "name").text?.getD ""
      let key := path ++ "/" ++ name
      if server.objects.contains key then (refusal 409 "AlreadyExists", server)
      else server.store key body 201
  | .put =>
      match server.objects.get? path with
      | none => (refusal 404 "NotFound", server)
      | some object =>
          match (versionOf body).present? with
          | some version =>
              if version == versionOf object then server.store path body 200
              else (refusal 409 "Conflict", server)
          | none => server.store path body 200

/-- Store and remove objects. -/
def prepare (server : ApiServer) (changes : List (String × Option Json)) : ApiServer :=
  { server with
    objects := changes.foldl
      (fun objects change =>
        match change.2 with
        | some object => objects.insert change.1 object
        | none => objects.erase change.1)
      server.objects }

/-- The rule for the next request. -/
def nextRule (server : ApiServer) : Rule :=
  ((server.script[server.taken]?).getD none).getD {}

/-- Count a request. -/
def take (server : ApiServer) : ApiServer := { server with taken := server.taken + 1 }

/-- Answer a request by a rule. -/
def respond (server : ApiServer) (rule : Rule) (request : Request) : Response × ApiServer :=
  let server := server.prepare rule.before
  match rule.answer with
  | some response => (response, server)
  | none => server.serve request

end ApiServer

end ConnectionRelay.Cluster
