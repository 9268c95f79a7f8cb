/-
  ConnectionRelay.Resource
  ────────────────────────
  **RESOURCES OF ANY KIND, WITH THEIR CONNECTION FIELDS TYPED.**

  A resource is a composite or a composed object.  Of its spec, the destination and
  the older secret reference are typed, and every other field is carried along.  To
  write it through the dynamic API it is turned into a `DynamicObject` and back, both
  by way of JSON.
-/
import ConnectionRelay.Cluster.DynamicObject

namespace ConnectionRelay

/-! ## §1. Owners of connection secrets. -/

/-- What a store needs to know of the resource whose connection secret it holds. -/
structure Owner where
  /-- The name, for messages. -/
  name : String
  /-- The namespace of an owner that has one. -/
  ns : Option String
  /-- Where the details are published, if anywhere. -/
  destination : Option Destination
  deriving DecidableEq, Repr

/-! ## §2. The spec. -/

/-- The spec of a resource. -/
structure ConnectionSpec where
  destination : Option Destination := none
  /-- An older kind of secret, carried along. -/
  secretRef : Option SecretReference := none
  /-- All other fields. -/
  fields : Dict Json := .empty
  deriving BEq

namespace ConnectionSpec

/-- The wire form of specs. -/
def shape : Wire.Shape ConnectionSpec :=
  .extensible "ConnectionSpec"
    [.optional "publishConnectionDetailsTo" Destination.decode
       fun s v => { s with destination := v },
     .optional "writeConnectionSecretToRef" SecretReference.decode
       fun s v => { s with secretRef := v }]
    fun k v s => { s with fields := s.fields.insert k v }

/-- Read a spec. -/
def decode : Wire.Decoder ConnectionSpec := shape.decode {}

/-- The fields of a spec. -/
def toDict (s : ConnectionSpec) : Dict Json :=
  let typed : List (String × Option Json) :=
    [("publishConnectionDetailsTo", s.destination.map Destination.toJson),
     ("writeConnectionSecretToRef", s.secretRef.map SecretReference.toJson)]
  (Dict.ofList (typed.filterMap fun f => f.2.map fun v => (f.1, v))).merge s.fields

/-- Write a spec. -/
def toJson (s : ConnectionSpec) : Json := .ofDict s.toDict

end ConnectionSpec

/-! ## §3. Resources. -/

/-- A resource of any kind. -/
structure Resource where
  type : TypeReference
  metadata : Cluster.ObjectMeta := {}
  spec : ConnectionSpec := {}
  status : Option Json := none
  deriving BEq

namespace Resource

/-- An empty resource of a type. -/
def ofName (type : TypeReference) (name : String) : Resource :=
  { type, metadata := { name := some name } }

/-- The name, empty if there is none. -/
def name (r : Resource) : String := r.metadata.name.getD ""

/-- The unique id, empty before the resource is first stored. -/
def uid (r : Resource) : String := r.metadata.uid.getD ""

/-- The publish destination. -/
def destination (r : Resource) : Option Destination := r.spec.destination

/-- Replace the publish destination. -/
def withDestination (r : Resource) (d : Option Destination) : Resource :=
  { r with spec := { r.spec with destination := d } }

/-- The resource as the owner of its connection secret. -/
def owner (r : Resource) : Owner := ⟨r.name, r.metadata.ns, r.destination⟩

/-! ## §4. The wire form. -/

/-- A resource while its fields are read: the typed ones, and the others in the order
of the document. -/
structure Partial where
  metadata : Cluster.ObjectMeta := {}
  spec : ConnectionSpec := {}
  status : Option Json := none
  others : List (String × Json) := []

/-- The wire form of resources, their type left aside. -/
def shape : Wire.Shape Partial :=
  .extensible "Unstructured"
    [.defaulted "metadata" Cluster.ObjectMeta.decode fun p v => { p with metadata := v },
     .defaulted "spec" ConnectionSpec.decode fun p v => { p with spec := v },
     .optional "status" Wire.value fun p v => { p with status := v }]
    fun k v p => { p with others := p.others ++ [(k, v)] }

/-- The wire form of the type, which stands among the other fields. -/
def typeShape : Wire.Shape TypeReference :=
  .embedded "TypeMeta" TypeReference.fields

/-- Read a resource; its type is read last. -/
def decode : Wire.Decoder Resource :=
  (shape.decode {}).andThen fun p => do
    let type ← typeShape.take ⟨"", ""⟩ (.obj p.others)
    pure { type, metadata := p.metadata, spec := p.spec, status := p.status }

/-- Write a resource. -/
def toJson (r : Resource) : Json :=
  .record
    [("apiVersion", some (.str r.type.apiVersion)),
     ("kind", some (.str r.type.kind)),
     ("metadata", some r.metadata.toJson),
     ("spec", some r.spec.toJson),
     ("status", r.status)]

/-- The resource as an object of the dynamic API. -/
def toDynamic (r : Resource) : Except Wire.DecodeError Cluster.DynamicObject :=
  Cluster.DynamicObject.decode.value r.toJson

/-- The resource of an object of the dynamic API. -/
def ofDynamic (o : Cluster.DynamicObject) : Except Wire.DecodeError Resource :=
  decode.value o.toJson

end Resource

end ConnectionRelay
