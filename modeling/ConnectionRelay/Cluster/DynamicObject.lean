/-
  ConnectionRelay.Cluster.DynamicObject
  ─────────────────────────────────────
  **OBJECTS OF ANY KIND.**

  The dynamic API of a cluster types only the metadata of an object, and its
  `apiVersion` and `kind` when both are texts.  Everything else is data.
-/
import ConnectionRelay.Cluster.ObjectMeta
import ConnectionRelay.Destination

namespace ConnectionRelay.Cluster

/-- An object of any kind. -/
structure DynamicObject where
  types : Option TypeReference
  metadata : ObjectMeta
  /-- All other fields. -/
  data : Dict Json
  deriving BEq

namespace DynamicObject

/-! ## §1. Reading. -/

/-- An object while its fields are read: the metadata, and the other fields in the
order of the document. -/
structure Partial where
  metadata : ObjectMeta := {}
  others : List (String × Json) := []

/-- The wire form of objects. -/
def shape : Wire.Shape Partial :=
  .extensible "DynamicObject"
    [.defaulted "metadata" ObjectMeta.decode fun p v => { p with metadata := v }]
    fun k v p => { p with others := p.others ++ [(k, v)] }

/-- Set a field of a type reference. -/
def setType (t : TypeReference) (k v : String) : TypeReference :=
  if k = "apiVersion" then { t with apiVersion := v } else { t with kind := v }

/-- Take the type out of the fields.  The first of its fields that is repeated or no
text ends the search without a type; the fields met up to there are gone. -/
def takeTypes (seen : List String) (t : TypeReference) :
    List (String × Json) → Option TypeReference × List (String × Json)
  | [] =>
      (if seen.contains "apiVersion" && seen.contains "kind" then some t else none, [])
  | (k, v) :: rest =>
      if k = "apiVersion" ∨ k = "kind" then
        match seen.contains k, v with
        | false, .str s => takeTypes (k :: seen) (setType t k s) rest
        | _, _ => (none, rest)
      else
        let (types, others) := takeTypes seen t rest
        (types, (k, v) :: others)

/-- The object of its fields; the last of repeated ones wins. -/
def ofPartial (p : Partial) : DynamicObject :=
  let (types, others) := takeTypes [] ⟨"", ""⟩ p.others
  { types, metadata := p.metadata, data := .ofList others }

/-- Read an object. -/
def decode : Wire.Decoder DynamicObject := (shape.decode {}).map ofPartial

/-! ## §2. Writing. -/

/-- The fields of an object. -/
def toDict (o : DynamicObject) : Dict Json :=
  let head : List (String × Json) :=
    match o.types with
    | some t => [("apiVersion", .str t.apiVersion), ("kind", .str t.kind)]
    | none => []
  ((Dict.ofList head).insert "metadata" o.metadata.toJson).merge o.data

/-- Write an object. -/
def toJson (o : DynamicObject) : Json := .ofDict o.toDict

end DynamicObject

end ConnectionRelay.Cluster
