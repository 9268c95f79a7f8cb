/-
  ConnectionRelay.Cluster.ObjectMeta
  ──────────────────────────────────
  **THE METADATA OF CLUSTER OBJECTS.**

  Every object of a cluster carries the same metadata.  All fields are optional, the
  known ones are kept, and others are dropped.
-/
import ConnectionRelay.Cluster.Timestamp

namespace ConnectionRelay.Cluster

/-! ## §1. Owners and managers. -/

/-- The owner of an object. -/
structure OwnerReference where
  apiVersion : String := ""
  blockOwnerDeletion : Option Bool := none
  controller : Option Bool := none
  kind : String := ""
  name : String := ""
  uid : String := ""
  deriving DecidableEq, Repr

namespace OwnerReference

/-- The wire form of owner references. -/
def shape : Wire.Shape OwnerReference :=
  .lenient "OwnerReference"
    [.optional "apiVersion" Wire.text fun o v => { o with apiVersion := v.getD "" },
     .optional "blockOwnerDeletion" Wire.boolean fun o v => { o with blockOwnerDeletion := v },
     .optional "controller" Wire.boolean fun o v => { o with controller := v },
     .optional "kind" Wire.text fun o v => { o with kind := v.getD "" },
     .optional "name" Wire.text fun o v => { o with name := v.getD "" },
     .optional "uid" Wire.text fun o v => { o with uid := v.getD "" }]

/-- Read an owner reference. -/
def decode : Wire.Decoder OwnerReference := shape.decode {}

/-- Write an owner reference. -/
def toJson (o : OwnerReference) : Json :=
  .record
    [("apiVersion", some (.str o.apiVersion)),
     ("blockOwnerDeletion", o.blockOwnerDeletion.map .bool),
     ("controller", o.controller.map .bool),
     ("kind", some (.str o.kind)),
     ("name", some (.str o.name)),
     ("uid", some (.str o.uid))]

end OwnerReference

/-- The fields of an object that one manager looks after. -/
structure ManagedFields where
  apiVersion : Option String := none
  fieldsType : Option String := none
  fieldsV1 : Option Json := none
  manager : Option String := none
  operation : Option String := none
  subresource : Option String := none
  time : Option Timestamp := none
  deriving BEq

namespace ManagedFields

/-- The wire form of managed fields. -/
def shape : Wire.Shape ManagedFields :=
  .lenient "ManagedFieldsEntry"
    [.optional "apiVersion" Wire.text fun m v => { m with apiVersion := v },
     .optional "fieldsType" Wire.text fun m v => { m with fieldsType := v },
     .optional "fieldsV1" Wire.value fun m v => { m with fieldsV1 := v },
     .optional "manager" Wire.text fun m v => { m with manager := v },
     .optional "operation" Wire.text fun m v => { m with operation := v },
     .optional "subresource" Wire.text fun m v => { m with subresource := v },
     .optional "time" Timestamp.decode fun m v => { m with time := v }]

/-- Read managed fields. -/
def decode : Wire.Decoder ManagedFields := shape.decode {}

/-- Write managed fields. -/
def toJson (m : ManagedFields) : Json :=
  .record
    [("apiVersion", m.apiVersion.map .str),
     ("fieldsType", m.fieldsType.map .str),
     ("fieldsV1", m.fieldsV1),
     ("manager", m.manager.map .str),
     ("operation", m.operation.map .str),
     ("subresource", m.subresource.map .str),
     ("time", m.time.map Timestamp.toJson)]

end ManagedFields

/-! ## §2. Metadata. -/

/-- The metadata of an object. -/
structure ObjectMeta where
  annotations : Option (Dict String) := none
  creationTimestamp : Option Timestamp := none
  deletionGracePeriodSeconds : Option Int := none
  deletionTimestamp : Option Timestamp := none
  finalizers : Option (List String) := none
  generateName : Option String := none
  generation : Option Int := none
  labels : Option (Dict String) := none
  managedFields : Option (List ManagedFields) := none
  name : Option String := none
  ns : Option String := none
  ownerReferences : Option (List OwnerReference) := none
  resourceVersion : Option String := none
  selfLink : Option String := none
  uid : Option String := none
  deriving BEq

namespace ObjectMeta

/-- The wire form of metadata. -/
def shape : Wire.Shape ObjectMeta :=
  .lenient "ObjectMeta"
    [.optional "annotations" (Wire.table Wire.text) fun m v => { m with annotations := v },
     .optional "creationTimestamp" Timestamp.decode
       fun m v => { m with creationTimestamp := v },
     .optional "deletionGracePeriodSeconds" Wire.int64
       fun m v => { m with deletionGracePeriodSeconds := v },
     .optional "deletionTimestamp" Timestamp.decode
       fun m v => { m with deletionTimestamp := v },
     .optional "finalizers" (Wire.list Wire.text) fun m v => { m with finalizers := v },
     .optional "generateName" Wire.text fun m v => { m with generateName := v },
     .optional "generation" Wire.int64 fun m v => { m with generation := v },
     .optional "labels" (Wire.table Wire.text) fun m v => { m with labels := v },
     .optional "managedFields" (Wire.list ManagedFields.decode)
       fun m v => { m with managedFields := v },
     .optional "name" Wire.text fun m v => { m with name := v },
     .optional "namespace" Wire.text fun m v => { m with ns := v },
     .optional "ownerReferences" (Wire.list OwnerReference.decode)
       fun m v => { m with ownerReferences := v },
     .optional "resourceVersion" Wire.text fun m v => { m with resourceVersion := v },
     .optional "selfLink" Wire.text fun m v => { m with selfLink := v },
     .optional "uid" Wire.text fun m v => { m with uid := v }]

/-- Read metadata. -/
def decode : Wire.Decoder ObjectMeta := shape.decode {}

/-- A whole number. -/
def number (n : Int) : Json := .num (.int n)

/-- Write metadata. -/
def toJson (m : ObjectMeta) : Json :=
  .record
    [("annotations", m.annotations.map .ofTexts),
     ("creationTimestamp", m.creationTimestamp.map Timestamp.toJson),
     ("deletionGracePeriodSeconds", m.deletionGracePeriodSeconds.map number),
     ("deletionTimestamp", m.deletionTimestamp.map Timestamp.toJson),
     ("finalizers", m.finalizers.map fun fs => .arr (fs.map .str)),
     ("generateName", m.generateName.map .str),
     ("generation", m.generation.map number),
     ("labels", m.labels.map .ofTexts),
     ("managedFields", m.managedFields.map fun fs => .arr (fs.map ManagedFields.toJson)),
     ("name", m.name.map .str),
     ("namespace", m.ns.map .str),
     ("ownerReferences", m.ownerReferences.map fun os => .arr (os.map OwnerReference.toJson)),
     ("resourceVersion", m.resourceVersion.map .str),
     ("selfLink", m.selfLink.map .str),
     ("uid", m.uid.map .str)]

end ObjectMeta

end ConnectionRelay.Cluster
