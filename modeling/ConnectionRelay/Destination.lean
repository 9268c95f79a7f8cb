/-
  ConnectionRelay.Destination
  ───────────────────────────
  **WHERE CONNECTION DETAILS ARE PUBLISHED.**

  A destination names a secret, the store config that holds it (the default one when
  it names none) and what is put on the secret besides the details.
-/
import ConnectionRelay.Wire.Decoding

namespace ConnectionRelay

/-! ## §1. References. -/

/-- A reference to an object of the whole cluster. -/
structure Reference where
  name : String
  deriving DecidableEq, Repr

namespace Reference

/-- The wire form of references. -/
def shape : Wire.Shape Reference :=
  .plain "Reference" [.required "name" Wire.text fun r v => { r with name := v }]

/-- Read a reference. -/
def decode : Wire.Decoder Reference := shape.decode ⟨""⟩

/-- Write a reference. -/
def toJson (r : Reference) : Json := .record [("name", some (.str r.name))]

end Reference

/-- A reference to a secret in a namespace. -/
structure SecretReference where
  name : String
  ns : String
  deriving DecidableEq, Repr

namespace SecretReference

/-- The wire form of secret references. -/
def shape : Wire.Shape SecretReference :=
  .plain "SecretReference"
    [.required "name" Wire.text fun r v => { r with name := v },
     .required "namespace" Wire.text fun r v => { r with ns := v }]

/-- Read a secret reference. -/
def decode : Wire.Decoder SecretReference := shape.decode ⟨"", ""⟩

/-- Write a secret reference. -/
def toJson (r : SecretReference) : Json :=
  .record [("name", some (.str r.name)), ("namespace", some (.str r.ns))]

end SecretReference

/-- A reference to a type of objects. -/
structure TypeReference where
  apiVersion : String
  kind : String
  deriving DecidableEq, Repr, Inhabited

namespace TypeReference

/-- The fields of a type reference. -/
def fields : List (Wire.Field TypeReference) :=
  [.required "apiVersion" Wire.text fun r v => { r with apiVersion := v },
   .required "kind" Wire.text fun r v => { r with kind := v }]

/-- The wire form of type references. -/
def shape : Wire.Shape TypeReference := .plain "TypeReference" fields

/-- Read a type reference. -/
def decode : Wire.Decoder TypeReference := shape.decode ⟨"", ""⟩

/-- Write a type reference. -/
def toJson (r : TypeReference) : Json :=
  .record [("apiVersion", some (.str r.apiVersion)), ("kind", some (.str r.kind))]

end TypeReference

/-! ## §2. Destinations. -/

/-- What is put on a published secret besides its details. -/
structure SecretMetadata where
  labels : Option (Dict String) := none
  annotations : Option (Dict String) := none
  type : Option String := none
  deriving DecidableEq, Repr

namespace SecretMetadata

/-- The wire form of secret metadata. -/
def shape : Wire.Shape SecretMetadata :=
  .plain "ConnectionSecretMetadata"
    [.optional "labels" (Wire.table Wire.text) fun m v => { m with labels := v },
     .optional "annotations" (Wire.table Wire.text) fun m v => { m with annotations := v },
     .optional "type" Wire.text fun m v => { m with type := v }]

/-- Read secret metadata. -/
def decode : Wire.Decoder SecretMetadata := shape.decode {}

/-- Write secret metadata. -/
def toJson (m : SecretMetadata) : Json :=
  .record
    [("annotations", m.annotations.map .ofTexts),
     ("labels", m.labels.map .ofTexts),
     ("type", m.type.map .str)]

end SecretMetadata

/-- Where the connection details of a resource are published. -/
structure Destination where
  /-- The name of the connection secret. -/
  name : String
  /-- The store config that holds the secret. -/
  configRef : Option Reference := none
  metadata : Option SecretMetadata := none
  deriving DecidableEq, Repr

namespace Destination

/-- The secret of this name in this store config. -/
def inStore (name store : String) : Destination :=
  { name, configRef := some ⟨store⟩ }

/-- The store config, or the default one. -/
def storeConfig (d : Destination) (default : String) : String :=
  match d.configRef with
  | some r => r.name
  | none => default

/-- The wire form of destinations. -/
def shape : Wire.Shape Destination :=
  .plain "PublishConnectionDetailsTo"
    [.required "name" Wire.text fun d v => { d with name := v },
     .optional "configRef" Reference.decode fun d v => { d with configRef := v },
     .optional "metadata" SecretMetadata.decode fun d v => { d with metadata := v }]

/-- Read a destination. -/
def decode : Wire.Decoder Destination := shape.decode { name := "" }

/-- Write a destination. -/
def toJson (d : Destination) : Json :=
  .record
    [("configRef", d.configRef.map Reference.toJson),
     ("metadata", d.metadata.map SecretMetadata.toJson),
     ("name", some (.str d.name))]

end Destination

end ConnectionRelay
