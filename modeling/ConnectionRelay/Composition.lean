/-
  ConnectionRelay.Composition
  ───────────────────────────
  **HOW COMPOSITE RESOURCES ARE ASSEMBLED.**

  A composition names the type of composite it applies to, the templates of the
  composed resources, and the store config that composites publish to by default.
-/
import ConnectionRelay.Cluster.ObjectMeta
import ConnectionRelay.Declaration
import ConnectionRelay.Destination

namespace ConnectionRelay

/-! ## §1. The specification. -/

/-- What a composition says. -/
structure CompositionSpec where
  compositeType : TypeReference
  templates : List Template := []
  /-- The store config of composites that name no destination themselves. -/
  defaultStore : Option String := none
  /-- Carried along for older secrets. -/
  secretsNamespace : Option String := none
  deriving BEq

namespace CompositionSpec

/-- Is this the type of composite that the composition is for? -/
def appliesTo (c : CompositionSpec) (type : TypeReference) : Bool :=
  c.compositeType == type

/-- The wire form of specifications. -/
def shape : Wire.Shape CompositionSpec :=
  .plain "CompositionSpec"
    [.required "compositeTypeRef" TypeReference.decode fun c v => { c with compositeType := v },
     .defaulted "resources" (Wire.list Template.decode) fun c v => { c with templates := v },
     .optional "publishConnectionDetailsWithStoreConfig" Wire.text
       fun c v => { c with defaultStore := v },
     .optional "writeConnectionSecretsToNamespace" Wire.text
       fun c v => { c with secretsNamespace := v }]

/-- Read a specification. -/
def decode : Wire.Decoder CompositionSpec := shape.decode { compositeType := ⟨"", ""⟩ }

/-- Write a specification. -/
def toJson (c : CompositionSpec) : Json :=
  .record
    [("compositeTypeRef", some c.compositeType.toJson),
     ("publishConnectionDetailsWithStoreConfig", c.defaultStore.map .str),
     ("resources", some (.arr (c.templates.map Template.toJson))),
     ("writeConnectionSecretsToNamespace", c.secretsNamespace.map .str)]

end CompositionSpec

/-! ## §2. The object. -/

/-- A composition as an object of the cluster. -/
structure Composition where
  metadata : Cluster.ObjectMeta
  spec : CompositionSpec
  deriving BEq

namespace Composition

/-- The API group of compositions. -/
def group : String := "apiextensions.crossplane.io"

/-- The version of the API. -/
def version : String := "v1"

/-- The group and version of the API. -/
def apiVersion : String := group ++ "/" ++ version

/-- The kind of compositions. -/
def kind : String := "Composition"

/-- The name of compositions in paths. -/
def plural : String := "compositions"

/-- The wire form of compositions. -/
def shape : Wire.Shape Composition :=
  .plain "Composition"
    [.required "metadata" Cluster.ObjectMeta.decode fun c v => { c with metadata := v },
     .required "spec" CompositionSpec.decode fun c v => { c with spec := v }]

/-- Read a composition; what it says of its own type does not matter. -/
def decode : Wire.Decoder Composition :=
  shape.decode { metadata := {}, spec := { compositeType := ⟨"", ""⟩ } }

/-- Write a composition. -/
def toJson (c : Composition) : Json :=
  .record
    [("apiVersion", some (.str apiVersion)),
     ("kind", some (.str kind)),
     ("metadata", some c.metadata.toJson),
     ("spec", some c.spec.toJson)]

end Composition

end ConnectionRelay
