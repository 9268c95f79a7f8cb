/-
  ConnectionRelay.Proofs.Cluster.Serving
  ──────────────────────────────────────
  **WHAT A SERVER ANSWERS.**

  One lemma for each way in which a server serves a request: a read finds the object or
  not, an object is created only where there is none, and replaced only by one of its own
  version, or by one that carries no version.
-/
import ConnectionRelay.Cluster.ApiServer

namespace ConnectionRelay.Cluster.ApiServer

variable {server : ApiServer} {place : String} {object body : Json} {query : Option String}
  {sent : Option Json}

/-! ## §1. Reads. -/

theorem serve_get_none (hobject : server.objects.get? place = none) :
    server.serve ⟨.get, ⟨place, query⟩, sent⟩ = (refusal 404 "NotFound", server) := by
  unfold serve
  simp only [hobject]

theorem serve_get_some (hobject : server.objects.get? place = some object) :
    server.serve ⟨.get, ⟨place, query⟩, sent⟩ = (⟨200, .json object⟩, server) := by
  unfold serve
  simp only [hobject]

/-! ## §2. New objects. -/

section Post

variable {path name : String} (hplace : place = path ++ "/" ++ name)
  (hname : ((body.field "metadata").field "name").text? = some name)

include hplace hname

theorem serve_post_some (hobject : server.objects.get? place = some object) :
    server.serve ⟨.post, ⟨path, query⟩, some body⟩ = (refusal 409 "AlreadyExists", server) := by
  have hthere : server.objects.contains place = true := by
    unfold Dict.contains
    rw [hobject]
    rfl
  unfold serve
  simp only [Option.getD_some, hname, ← hplace, hthere, if_true]

theorem serve_post_none (hobject : server.objects.get? place = none) :
    server.serve ⟨.post, ⟨path, query⟩, some body⟩ = server.store place body 201 := by
  have hfree : server.objects.contains place = false := by
    unfold Dict.contains
    rw [hobject]
    rfl
  unfold serve
  simp only [Option.getD_some, hname, ← hplace, hfree, Bool.false_eq_true, if_false]

end Post

/-! ## §3. Replacements. -/

/-- The version of an object is compared as a text. -/
theorem same_version_iff {version : String} {v : Json} :
    (Json.str version == v) = true ↔ v = .str version := by
  constructor
  · intro h
    cases v with
    | str s =>
        have hs : version = s := by simpa [BEq.beq, Json.same] using h
        rw [hs]
    | _ => cases h
  · rintro rfl
    simp [BEq.beq, Json.same]

theorem serve_put_none (hobject : server.objects.get? place = none) :
    server.serve ⟨.put, ⟨place, query⟩, some body⟩ = (refusal 404 "NotFound", server) := by
  unfold serve
  simp only [hobject]

/-- An object is replaced by one with the same version, which may be none. -/
theorem serve_put_current (hobject : server.objects.get? place = some object)
    {version : Option String} (hbefore : versionOf object = (version.map Json.str).getD .null)
    (hafter : versionOf body = (version.map Json.str).getD .null) :
    server.serve ⟨.put, ⟨place, query⟩, some body⟩ = server.store place body 200 := by
  unfold serve
  simp only [Option.getD_some, hobject, hbefore, hafter]
  -- without a version a replacement is stored whatever the object's version is
  cases version with
  | none => rfl
  | some version =>
      simp only [Option.map_some, Option.getD_some, Json.present?]
      rw [if_pos (same_version_iff.2 rfl)]

theorem serve_put_stale (hobject : server.objects.get? place = some object) {version : String}
    (hafter : versionOf body = .str version) (hstale : versionOf object ≠ .str version) :
    server.serve ⟨.put, ⟨place, query⟩, some body⟩ = (refusal 409 "Conflict", server) := by
  unfold serve
  simp only [Option.getD_some, hobject, hafter, Json.present?]
  rw [if_neg fun h => hstale (same_version_iff.1 h)]

end ConnectionRelay.Cluster.ApiServer
