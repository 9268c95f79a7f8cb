/-
  ConnectionRelay.Json.Basic
  ──────────────────────────
  **JSON VALUES.**

  Free JSON is carried through the relay untouched: the base of a template, the
  fields of a spec nobody types, a status.  Whole numbers that fit 64 bits are kept
  apart from binary64 numbers, which are held by their bits.  The fields of an
  object are a list of entries; `Json.Canonical` says that everywhere inside a value
  they are sorted by key, which is the form every reader of this library builds.
-/
import ConnectionRelay.Dict
import ConnectionRelay.Json.Shortest

namespace ConnectionRelay

/-! ## §1. Values. -/

/-- A JSON number. -/
inductive JsonNumber where
  /-- A whole number between `-2^63` and `2^64 - 1`. -/
  | int (value : Int)
  /-- A binary64 number, by its bits. -/
  | real (bits : UInt64)
  deriving DecidableEq, Repr

/-- A JSON value. -/
inductive Json where
  | null
  | bool (value : Bool)
  | num (value : JsonNumber)
  | str (value : String)
  | arr (items : List Json)
  | obj (fields : List (String × Json))
  deriving Inhabited, Repr

namespace Json

/-- Zeros of either sign are the same number; any other two numbers are the same if
they are of one kind and written alike. -/
def sameNumber : JsonNumber → JsonNumber → Bool
  | .int a, .int b => a == b
  | .real a, .real b => a == b || (isZero a && isZero b)
  | _, _ => false

mutual

/-- Are two values the same? -/
def same : Json → Json → Bool
  | .null, .null => true
  | .bool a, .bool b => a == b
  | .num a, .num b => sameNumber a b
  | .str a, .str b => a == b
  | .arr as, .arr bs => sameItems as bs
  | .obj as, .obj bs => sameFields as bs
  | _, _ => false

/-- Are two lists of values the same? -/
def sameItems : List Json → List Json → Bool
  | [], [] => true
  | a :: as, b :: bs => same a b && sameItems as bs
  | _, _ => false

/-- Are two lists of fields the same? -/
def sameFields : List (String × Json) → List (String × Json) → Bool
  | [], [] => true
  | (k, a) :: as, (q, b) :: bs => k == q && same a b && sameFields as bs
  | _, _ => false

end

instance : BEq Json := ⟨same⟩

/-! ## §2. The canonical form. -/

mutual

/-- Every object inside has strictly increasing keys. -/
def Canonical : Json → Prop
  | .arr items => CanonicalItems items
  | .obj fields => Entries.Sorted fields ∧ CanonicalFields fields
  | _ => True

/-- Every item is canonical. -/
def CanonicalItems : List Json → Prop
  | [] => True
  | v :: vs => Canonical v ∧ CanonicalItems vs

/-- Every field value is canonical. -/
def CanonicalFields : List (String × Json) → Prop
  | [] => True
  | (_, v) :: fs => Canonical v ∧ CanonicalFields fs

end

/-! ## §3. Building and looking. -/

/-- The object of a table. -/
def ofDict (d : Dict Json) : Json := .obj d.entries

/-- An object of the fields that are there; the names are given in increasing order. -/
def record (fields : List (String × Option Json)) : Json :=
  .obj (fields.filterMap fun f => f.2.map fun v => (f.1, v))

/-- A table of texts as an object. -/
def ofTexts (d : Dict String) : Json := ofDict (d.mapValues .str)

/-- The value of a field; `null` if there is none. -/
def field (v : Json) (name : String) : Json :=
  match v with
  | .obj fields => (Entries.find? name fields).getD .null
  | _ => .null

/-- A value that is not `null`. -/
def present? : Json → Option Json
  | .null => none
  | v => some v

/-- The fields of an object, none for any other value. -/
def fields : Json → List (String × Json)
  | .obj fs => fs
  | _ => []

/-- The items of an array, none for any other value. -/
def items : Json → List Json
  | .arr vs => vs
  | _ => []

/-- The text of a string. -/
def text? : Json → Option String
  | .str s => some s
  | _ => none

/-- Set a field of an object; any other value becomes an object of this field. -/
def setField (v : Json) (name : String) (value : Json) : Json :=
  .obj (Entries.put name value v.fields)

end Json

end ConnectionRelay
