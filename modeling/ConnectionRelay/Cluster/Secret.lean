/-
  ConnectionRelay.Cluster.Secret
  ──────────────────────────────
  **SECRETS AS CLUSTER OBJECTS.**

  A secret holds data, whose values are written in base64, and the metadata of every
  cluster object.  Connection details are the data of a secret.  `Secret.apply` puts
  details into a secret: those before it are overwritten by the details applied, and so
  are its labels and annotations.
-/
import ConnectionRelay.Cluster.ObjectMeta
import ConnectionRelay.Details
import ConnectionRelay.Text.Base64.Flaw

namespace ConnectionRelay.Cluster

/-- A secret. -/
structure Secret where
  data : Option Details := none
  immutable : Option Bool := none
  metadata : ObjectMeta := {}
  stringData : Option (Dict String) := none
  type : Option String := none
  deriving BEq

namespace Secret

/-! ## §1. The wire form. -/

/-- A value of the data: base64, or nothing for no bytes. -/
def decodeBytes : Wire.Decoder Bytes :=
  Wire.scalar "a base64-encoded string" fun
    | .null => some (.ok [])
    | .str s =>
        some (match Text.Base64.decode s with
          | some bytes => .ok bytes
          | none => .error (.invalidBytes (Text.Base64.Flaw.ofText s).message))
    | _ => none

/-- A field that has one possible value. -/
def constant (expected : String) : Wire.Decoder Unit :=
  Wire.text.check fun s =>
    if s = expected then .ok () else .error (.invalidValue (.str s) expected)

/-- The version of secrets. -/
def apiVersion : String := "v1"

/-- The kind of secrets. -/
def kind : String := "Secret"

/-- The wire form of secrets. -/
def shape : Wire.Shape Secret :=
  .lenient "Secret"
    [.defaulted "apiVersion" (constant apiVersion) fun s _ => s,
     .defaulted "kind" (constant kind) fun s _ => s,
     .optional "data" (Wire.table decodeBytes) fun s v => { s with data := v },
     .optional "immutable" Wire.boolean fun s v => { s with immutable := v },
     .optional "metadata" ObjectMeta.decode fun s v => { s with metadata := v.getD {} },
     .optional "stringData" (Wire.table Wire.text) fun s v => { s with stringData := v },
     .optional "type" Wire.text fun s v => { s with type := v }]

/-- Read a secret. -/
def decode : Wire.Decoder Secret := shape.decode {}

/-- Details as the data of a secret. -/
def dataToJson (d : Details) : Json :=
  .ofTexts (d.mapValues Text.Base64.encode)

/-- Write a secret. -/
def toJson (s : Secret) : Json :=
  .record
    [("apiVersion", some (.str apiVersion)),
     ("data", s.data.map dataToJson),
     ("immutable", s.immutable.map .bool),
     ("kind", some (.str kind)),
     ("metadata", some s.metadata.toJson),
     ("stringData", s.stringData.map .ofTexts),
     ("type", s.type.map .str)]

/-- The path of the secrets of a namespace. -/
def path (ns : String) : String := "/api/v1/namespaces/" ++ ns ++ "/secrets"

/-! ## §2. Secrets as connection details. -/

/-- The details a secret holds. -/
def details (s : Secret) : Details := s.data.getD .empty

/-- An empty secret of a name in a namespace. -/
def ofName (name ns : String) : Secret := { metadata := { name := some name, ns := some ns } }

/-- Overwrite a table that may be absent with one that may be absent. -/
def overlay (into «from» : Option (Dict String)) : Option (Dict String) :=
  match «from» with
  | none => into
  | some d => some ((into.getD .empty).merge d)

/-- Put details into a secret, and what the destination puts on it. -/
def apply (s : Secret) (destination : Destination) (d : Details) : Secret :=
  let extra := destination.metadata.getD {}
  { s with
    data := some (s.details.merge d)
    metadata :=
      { s.metadata with
        labels := overlay s.metadata.labels extra.labels
        annotations := overlay s.metadata.annotations extra.annotations }
    type := extra.type.or s.type }

/-! ## §3. What is in a secret afterwards. -/

@[simp] theorem resourceVersion_apply (s : Secret) (destination : Destination)
    (d : Details) :
    (s.apply destination d).metadata.resourceVersion = s.metadata.resourceVersion := rfl

end Secret

end ConnectionRelay.Cluster
