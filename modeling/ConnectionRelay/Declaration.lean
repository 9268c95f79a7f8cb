/-
  ConnectionRelay.Declaration
  ───────────────────────────
  **WHICH CONNECTION DETAILS A COMPOSED RESOURCE CONTRIBUTES.**

  A template lists declarations.  Each names a source (a key of the composed
  resource's connection secret, a field path or a literal value) and optionally the
  key under which the value is passed on.  Main statement: without an explicit type,
  a declaration has the type of the one source that is set, and no known type when
  none or several are set (`Declaration.effectiveType`).
-/
import ConnectionRelay.Wire.Decoding

namespace ConnectionRelay

/-! ## §1. Types of declarations. -/

/-- How the value of a connection detail is obtained. -/
inductive DetailType where
  /-- Copied from a key of the composed resource's connection secret. -/
  | fromConnectionSecretKey
  /-- Read from a field of the composed resource. -/
  | fromFieldPath
  /-- Given in the template. -/
  | fromValue
  /-- None or several sources, or a type nobody knows. -/
  | unknown
  deriving DecidableEq, Repr

namespace DetailType

/-- The wire name of a type. -/
def name : DetailType → String
  | .fromConnectionSecretKey => "FromConnectionSecretKey"
  | .fromFieldPath => "FromFieldPath"
  | .fromValue => "FromValue"
  | .unknown => "Unknown"

/-- The type of a wire name; every name but three is unknown. -/
def ofName (s : String) : DetailType :=
  if s = "FromConnectionSecretKey" then .fromConnectionSecretKey
  else if s = "FromFieldPath" then .fromFieldPath
  else if s = "FromValue" then .fromValue
  else .unknown

theorem ofName_name (t : DetailType) : ofName t.name = t := by
  cases t <;> decide

/-- Read a type by its name. -/
def decode : Wire.Decoder DetailType := Wire.variant.map ofName

/-- A type is written as its name. -/
def toJson (t : DetailType) : Json := .str t.name

end DetailType

/-! ## §2. Declarations. -/

/-- The declaration of one connection detail. -/
structure Declaration where
  /-- The key the value is passed on under. -/
  name : Option String := none
  /-- The explicit type. -/
  type : Option DetailType := none
  /-- The key in the composed resource's connection secret. -/
  secretKey : Option String := none
  /-- The field path in the composed resource. -/
  fieldPath : Option String := none
  /-- The literal value. -/
  value : Option String := none
  deriving DecidableEq, Repr

namespace Declaration

/-- The types of the sources that are set. -/
def sources (d : Declaration) : List DetailType :=
  (if d.value.isSome then [DetailType.fromValue] else [])
    ++ (if d.secretKey.isSome then [.fromConnectionSecretKey] else [])
    ++ (if d.fieldPath.isSome then [.fromFieldPath] else [])

/-- The type a declaration is treated as: the explicit one, else that of the only
source. -/
def effectiveType (d : Declaration) : DetailType :=
  match d.type, d.sources with
  | some t, _ => t
  | none, [t] => t
  | none, _ => .unknown

/-- A declaration that copies a key of the connection secret. -/
def ofSecretKey (key : String) (name : Option String) : Declaration :=
  { name, type := some .fromConnectionSecretKey, secretKey := some key }

/-- The wire form of declarations. -/
def shape : Wire.Shape Declaration :=
  .plain "ConnectionDetail"
    [.optional "name" Wire.text fun d v => { d with name := v },
     .optional "type" DetailType.decode fun d v => { d with type := v },
     .optional "fromConnectionSecretKey" Wire.text fun d v => { d with secretKey := v },
     .optional "fromFieldPath" Wire.text fun d v => { d with fieldPath := v },
     .optional "value" Wire.text fun d v => { d with value := v }]

/-- Read a declaration. -/
def decode : Wire.Decoder Declaration := shape.decode {}

/-- Write a declaration. -/
def toJson (d : Declaration) : Json :=
  .record
    [("fromConnectionSecretKey", d.secretKey.map .str),
     ("fromFieldPath", d.fieldPath.map .str),
     ("name", d.name.map .str),
     ("type", d.type.map DetailType.toJson),
     ("value", d.value.map .str)]

end Declaration

/-! ## §3. Templates. -/

/-- How one composed resource is made, and which details it contributes. -/
structure Template where
  name : Option String := none
  /-- The object the composed resource is rendered from. -/
  base : Json := .null
  details : List Declaration := []
  deriving BEq

namespace Template

/-- The wire form of templates. -/
def shape : Wire.Shape Template :=
  .plain "ComposedTemplate"
    [.optional "name" Wire.text fun t v => { t with name := v },
     .defaulted "base" Wire.value fun t v => { t with base := v },
     .defaulted "connectionDetails" (Wire.list Declaration.decode)
       fun t v => { t with details := v }]

/-- Read a template. -/
def decode : Wire.Decoder Template := shape.decode {}

/-- Write a template. -/
def toJson (t : Template) : Json :=
  .record
    [("base", some t.base),
     ("connectionDetails", some (.arr (t.details.map Declaration.toJson))),
     ("name", t.name.map .str)]

end Template

end ConnectionRelay
