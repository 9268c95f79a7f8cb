/-
  ConnectionRelay.Proofs.Cluster.PlainServer
  ──────────────────────────────────────────
  **SERVERS THAT ONLY SERVE.**

  A server without a script answers every request, and out of its objects alone.  Main
  statements:

    • `handle_absent`, `handle_present` — a read says what is there,
    • `handle_create`, `handle_replace` — a write is stored, if nothing is there or if it
      carries the version of what is there,
    • `exchange_of_handle` — the exchange with such a server cancels nothing.
-/
import ConnectionRelay.Proofs.Cluster.Exchange
import ConnectionRelay.Proofs.Cluster.Serving

namespace ConnectionRelay

open Cluster

namespace Cluster.ApiServer

variable {server : ApiServer} {place : String} {object body : Json}

theorem nextRule_of_no_script (h : server.script = []) : server.nextRule = {} := by
  unfold nextRule
  rw [h]
  rfl

/-- Without a script every request is served. -/
theorem handle_of_no_script (h : server.script = []) (request : Request) :
    server.handle request
      = (.answered (server.take.serve request).1, (server.take.serve request).2) := by
  unfold handle
  rw [nextRule_of_no_script h]
  rfl

theorem handle_absent (h : server.script = []) (hobject : server.objects.get? place = none)
    (query : Option String) (sent : Option Json) :
    server.handle ⟨.get, ⟨place, query⟩, sent⟩
      = (.answered (refusal 404 "NotFound"), server.take) := by
  have htake : server.take.objects.get? place = none := hobject
  rw [handle_of_no_script h, serve_get_none htake]

theorem handle_present (h : server.script = []) (hobject : server.objects.get? place = some object)
    (query : Option String) (sent : Option Json) :
    server.handle ⟨.get, ⟨place, query⟩, sent⟩ = (.answered ⟨200, .json object⟩, server.take) := by
  have htake : server.take.objects.get? place = some object := hobject
  rw [handle_of_no_script h, serve_get_some htake]

/-- An object is created where there is none. -/
theorem handle_create (h : server.script = []) {path name : String}
    (hplace : place = path ++ "/" ++ name) (hobject : server.objects.get? place = none)
    (hname : ((body.field "metadata").field "name").text? = some name) (query : Option String) :
    server.handle ⟨.post, ⟨path, query⟩, some body⟩
      = (.answered (server.take.store place body 201).1, (server.take.store place body 201).2) := by
  have htake : server.take.objects.get? place = none := hobject
  rw [handle_of_no_script h, serve_post_none hplace hname htake]

/-- An object is replaced by one of its own version, or by one that carries none. -/
theorem handle_replace (h : server.script = [])
    (hobject : server.objects.get? place = some object) {version : Option String}
    (hbefore : versionOf object = (version.map Json.str).getD .null)
    (hafter : versionOf body = (version.map Json.str).getD .null) (query : Option String) :
    server.handle ⟨.put, ⟨place, query⟩, some body⟩
      = (.answered (server.take.store place body 200).1, (server.take.store place body 200).2) := by
  have htake : server.take.objects.get? place = some object := hobject
  rw [handle_of_no_script h, serve_put_current htake hbefore hafter]

end Cluster.ApiServer

namespace Session

variable {s : Session} {cluster : String} {request : Request}

theorem fired_taken (h : (s.serverOf cluster).script = []) :
    (s.taken cluster request).fired = s.fired := by
  have hrule := ApiServer.nextRule_of_no_script h
  simp only [taken, hrule]
  rfl

theorem fired_exchange (h : (s.serverOf cluster).script = []) :
    (s.exchange cluster request).2.fired = s.fired := by
  have htaken : (s.taken cluster request.arrived).fired = s.fired := fired_taken h
  rw [← htaken]
  unfold exchange
  simp only
  split
  · rfl
  · split <;> rfl

/-- An exchange with a server without a script cancels nothing. -/
theorem exchange_of_handle (h : (s.serverOf cluster).script = []) {r : Response}
    {server : ApiServer}
    (hhandle : (s.serverOf cluster).handle request.arrived = (.answered r, server)) :
    ∃ s', s.exchange cluster request = (.answered r, s') ∧ s'.serverOf cluster = server
      ∧ s'.fired = s.fired := by
  refine ⟨(s.exchange cluster request).2, ?_, ?_, fired_exchange h⟩
  · have hfate := s.fst_exchange cluster request
    rw [hhandle] at hfate
    exact Prod.ext hfate rfl
  · rw [serverOf_exchange, hhandle]

end Session

end ConnectionRelay
