/-
  ConnectionRelay.Wire.Decoding
  ─────────────────────────────
  **HOW WIRE TYPES ARE READ FROM JSON.**

  A decoder has two sides.  From a value that is already parsed it takes what it wants.
  From a text it reads as it goes, so that a wrong type is reported before a fault of
  the text that stands further on, and what nobody wants is only skipped.

  It also tells where it stopped.

  Both go through the fields of an object in order, so the first offending one is
  reported.  A missing field is reported after all fields that are there, the first in
  declaration order.  A `Shape` declares the fields of one wire type once, and
  `Shape.decode` reads it from an object or, where the type allows it, from an array of
  its fields in declaration order.
-/
import ConnectionRelay.Json.Skip
import ConnectionRelay.Text.Quoted

namespace ConnectionRelay.Wire

/-! ## §1. Errors. -/

/-- What a decoder found in place of what it expected. -/
inductive Found where
  | null
  | bool (value : Bool)
  | num (value : JsonNumber)
  | str (value : String)
  | sequence
  | map
  deriving DecidableEq, Repr

/-- The text of what was found. -/
def Found.message : Found → String
  | .null => "null"
  | .bool true => "boolean `true`"
  | .bool false => "boolean `false`"
  | .num (.int n) => "integer `" ++ toString n ++ "`"
  | .num (.real bits) => "floating point `" ++ Json.renderReal bits ++ "`"
  | .str s => "string " ++ Text.quoted s
  | .sequence => "sequence"
  | .map => "map"

/-- Why a document is not of a wire type. -/
inductive DecodeError where
  | missingField (name : String)
  | duplicateField (name : String)
  | invalidType (found : Found) (expected : String)
  | invalidValue (found : Found) (expected : String)
  | invalidLength (length : Nat) (expected : String)
  | malformed (fault : Fault)
  | invalidTime (reason : String)
  | invalidBytes (reason : String)
  deriving DecidableEq, Repr

/-- The text of an error. -/
def DecodeError.message : DecodeError → String
  | .missingField name => "missing field `" ++ name ++ "`"
  | .duplicateField name => "duplicate field `" ++ name ++ "`"
  | .invalidType found expected =>
      "invalid type: " ++ found.message ++ ", expected " ++ expected
  | .invalidValue found expected =>
      "invalid value: " ++ found.message ++ ", expected " ++ expected
  | .invalidLength length expected =>
      "invalid length " ++ toString length ++ ", expected " ++ expected
  | .malformed fault => fault.message
  | .invalidTime reason => reason
  | .invalidBytes reason => reason

/-! ## §2. Decoders. -/

/-- What reading a wire type off a text gives, or where and why it stopped. -/
abbrev Reading := Except (Stop DecodeError)

instance : MonadLift Json.Reading Reading where
  monadLift r := r.mapError (Stop.map .malformed)

/-- An error is told in front of the rest of the text. -/
def locate {α : Type} (rest : List Char) (r : Except DecodeError α) : Reading α :=
  r.mapError fun e => .before e rest

/-- An error of an object is told behind the object, if it ends here, else in front of
the rest of the text. -/
def locateInObject {α : Type} (rest : List Char) (r : Except DecodeError α) : Reading α :=
  match Json.skipSpace rest with
  | '\x7d' :: rest => locate rest r
  | rest => locate rest r

/-- An error of a list is told behind the list, if it ends here, or behind a comma and
the blanks after it. -/
def locateInList {α : Type} (rest : List Char) (r : Except DecodeError α) : Reading α :=
  match Json.skipSpace rest with
  | ']' :: rest => locate rest r
  | ',' :: rest => locate (Json.skipSpace rest) r
  | rest => locate rest r

/-- A decoder of a type. -/
structure Decoder (α : Type) where
  /-- Take it from a parsed value. -/
  value : Json → Except DecodeError α
  /-- Read it off a text, where lists and objects may be nested `depth` deep. -/
  text : (depth : Nat) → List Char → Reading (α × List Char)

namespace Decoder

variable {α β : Type}

/-- Go on with what was decoded. -/
def andThen (d : Decoder α) (f : α → Except DecodeError β) : Decoder β where
  value v := do
    let a ← d.value v
    f a
  text depth cs := do
    let (a, rest) ← d.text depth cs
    let b ← locate rest (f a)
    pure (b, rest)

/-- Check the value of a field.  An error is one of the object around it. -/
def check (d : Decoder α) (f : α → Except DecodeError β) : Decoder β where
  value v := do
    let a ← d.value v
    f a
  text depth cs := do
    let (a, rest) ← d.text depth cs
    let b ← locateInObject rest (f a)
    pure (b, rest)

/-- Change what was decoded. -/
def map (f : α → β) (d : Decoder α) : Decoder β := d.andThen fun a => .ok (f a)

end Decoder

/-- What a value is. -/
def found : Json → Found
  | .null => .null
  | .bool b => .bool b
  | .num n => .num n
  | .str s => .str s
  | .arr _ => .sequence
  | .obj _ => .map

/-- Refuse a value of the wrong kind. -/
def refuse {α : Type} (expected : String) (v : Json) : Except DecodeError α :=
  .error (.invalidType (found v) expected)

/-- Refuse what a text goes on with.  Of a list or an object it is enough to see the
start; any other value is read. -/
def refuseText {α : Type} (expected : String) (cs : List Char) : Reading α :=
  match Json.skipSpace cs with
  | '[' :: rest => .error (.before (.invalidType .sequence expected) ('[' :: rest))
  | '\x7b' :: rest => .error (.before (.invalidType .map expected) ('\x7b' :: rest))
  | cs => do
      let (v, rest) ← Json.readScalar cs
      locate rest (refuse expected v)

/-- A decoder of values that are neither lists nor objects; `take` says of a value of
the right kind what it stands for. -/
def scalar {α : Type} (expected : String) (take : Json → Option (Except DecodeError α)) :
    Decoder α where
  value v := (take v).getD (refuse expected v)
  text _ cs :=
    match Json.skipSpace cs with
    | '[' :: _ => refuseText expected cs
    | '\x7b' :: _ => refuseText expected cs
    | cs => do
        let (v, rest) ← Json.readScalar cs
        let a ← locate rest ((take v).getD (refuse expected v))
        pure (a, rest)

/-- A text. -/
def text : Decoder String :=
  scalar "a string" fun
    | .str s => some (.ok s)
    | _ => none

/-- A truth value. -/
def boolean : Decoder Bool :=
  scalar "a boolean" fun
    | .bool b => some (.ok b)
    | _ => none

/-- A whole number of 64 bits with a sign. -/
def int64 : Decoder Int :=
  scalar "i64" fun
    | .num (.int n) =>
        some (if n < Nat.pow 2 63 then .ok n else .error (.invalidValue (.num (.int n)) "i64"))
    | _ => none

/-- A whole number of 16 bits without a sign. -/
def uint16 : Decoder Nat :=
  scalar "u16" fun
    | .num (.int n) =>
        some (if 0 ≤ n ∧ n < Nat.pow 2 16 then .ok n.toNat
          else .error (.invalidValue (.num (.int n)) "u16"))
    | _ => none

/-- Nothing. -/
def unit : Decoder Unit :=
  scalar "unit" fun
    | .null => some (.ok ())
    | _ => none

/-- Any JSON value. -/
def value : Decoder Json where
  value v := .ok v
  text depth cs := liftM (Json.readValue depth cs)

/-- `null`, or something. -/
def option {α : Type} (d : Decoder α) : Decoder (Option α) where
  value
    | .null => .ok none
    | v => (d.value v).map some
  text depth cs :=
    match Json.skipSpace cs with
    | 'n' :: rest => do
        let rest ← Json.readWord ['u', 'l', 'l'] rest
        pure (none, rest)
    | _ => (d.text depth cs).map fun (a, rest) => (some a, rest)

/-- Read a list or an object, of which the rest of the text is given from after its
bracket or brace on, unless it is nested too deep. -/
def nested {α : Type} (depth : Nat) (rest : List Char) (read : Nat → Reading α) :
    Reading α :=
  match depth with
  | 0 => .error (.before (.malformed .tooDeep) rest)
  | depth + 1 => read depth

/-- A list. -/
def list {α : Type} (d : Decoder α) : Decoder (List α) where
  value
    | .arr vs => vs.mapM d.value
    | v => refuse "a sequence" v
  text depth cs :=
    match Json.skipSpace cs with
    | '[' :: rest =>
        nested depth rest fun depth => do
          let item (as : List α) (cs : List Char) : Reading (List α × List Char) := do
            let (a, cs) ← d.text depth cs
            pure (a :: as, cs)
          let (as, rest) ← Json.foldItems item true [] (rest.length + 1) rest
          pure (as.reverse, rest)
    | _ => refuseText "a sequence" cs

/-- A table with arbitrary keys; the last of repeated keys wins. -/
def table {α : Type} (d : Decoder α) : Decoder (Dict α) where
  value
    | .obj fs => fs.foldlM (fun t f => (d.value f.2).map fun a => t.insert f.1 a) .empty
    | v => refuse "a map" v
  text depth cs :=
    match Json.skipSpace cs with
    | '\x7b' :: rest =>
        nested depth rest fun depth =>
          let field (k : String) (t : Dict α) (cs : List Char) :
              Reading (Dict α × List Char) := do
            let cs ← Json.readColon cs
            let (a, cs) ← d.text depth cs
            pure (t.insert k a, cs)
          Json.foldFields field true .empty (rest.length + 1) rest
    | _ => refuseText "a map" cs

/-! ## §3. Names. -/

/-- The name of a variant that holds nothing: a string, or an object with the name as
its one key and no value.  A text must begin like one of these. -/
def variant : Decoder String where
  value
    | .str s => .ok s
    | .obj [(k, v)] => (unit.value v).map fun _ => k
    | .obj _ => .error (.invalidValue .map "map with a single key")
    | v => refuse "string or map" v
  text depth cs :=
    match Json.skipSpace cs with
    | [] => .error (.within (.malformed .endInValue) [])
    | '"' :: rest => liftM (Json.readString rest)
    | '\x7b' :: rest => nested depth rest fun depth => readField depth (Json.skipSpace rest)
    | cs => .error (.within (.malformed .expectedValue) cs)
where
  /-- Read the one field of an object, and the end of the object. -/
  readField (depth : Nat) (cs : List Char) : Reading (String × List Char) :=
    match cs with
    | [] => .error (.within (.malformed .endInObject) [])
    | '\x7d' :: _ => .error (.within (.malformed .expectedValue) cs)
    | cs => do
        let (name, rest) ← Json.readKey cs
        let rest ← Json.readColon rest
        let ((), rest) ← unit.text depth rest
        match Json.skipSpace rest with
        | [] => .error (.within (.malformed .endInObject) [])
        | '\x7d' :: rest => pure (name, rest)
        | rest => .error (.before (.malformed .expectedValue) rest)

/-! ## §4. Shapes. -/

/-- A declared field, which reads its value into a partial result. -/
structure Field (σ : Type) where
  name : String
  /-- May the field be left out? -/
  omissible : Bool
  update : Decoder (σ → σ)

namespace Field

variable {σ : Type}

/-- A field that must be there. -/
def required {α : Type} (name : String) (d : Decoder α) (set : σ → α → σ) : Field σ :=
  ⟨name, false, d.map fun a s => set s a⟩

/-- A field that keeps the value of the start when it is left out. -/
def defaulted {α : Type} (name : String) (d : Decoder α) (set : σ → α → σ) : Field σ :=
  ⟨name, true, d.map fun a s => set s a⟩

/-- A field that may be left out or `null`. -/
def optional {α : Type} (name : String) (d : Decoder α) (set : σ → Option α → σ) :
    Field σ :=
  defaulted name (option d) set

end Field

/-- What happens to fields that are not declared. -/
inductive Others (σ : Type) where
  /-- They are skipped. -/
  | skipped
  /-- They are read as any values and put into the partial result. -/
  | kept (put : String → Json → σ → σ)

/-- The declaration of a wire type. -/
structure Shape (σ : Type) where
  /-- What a document of another kind is told to be. -/
  expected : String
  fields : List (Field σ)
  /-- Is an array of the fields accepted? -/
  positional : Bool
  /-- May a field be repeated? -/
  repeats : Bool
  others : Others σ

namespace Shape

variable {σ : Type}

/-- A plain structure: no repeats, undeclared fields skipped, arrays accepted. -/
def plain (name : String) (fields : List (Field σ)) : Shape σ :=
  ⟨"struct " ++ name, fields, true, false, .skipped⟩

/-- An object of the cluster's own types: the last of repeated fields wins, undeclared
fields are skipped, arrays are refused. -/
def lenient (name : String) (fields : List (Field σ)) : Shape σ :=
  ⟨name, fields, false, true, .skipped⟩

/-- A structure that takes part in a larger one: undeclared fields are left to others,
arrays are refused. -/
def embedded (name : String) (fields : List (Field σ)) : Shape σ :=
  ⟨"struct " ++ name, fields, false, false, .skipped⟩

/-- A structure that keeps undeclared fields; arrays are refused. -/
def extensible (name : String) (fields : List (Field σ)) (put : String → Json → σ → σ) :
    Shape σ :=
  ⟨"struct " ++ name, fields, false, false, .kept put⟩

/-- The field of a name. -/
def field? (shape : Shape σ) (name : String) : Option (Field σ) :=
  shape.fields.find? fun f => f.name == name

/-- The names met so far, with one more, which may have to be new. -/
def meet (shape : Shape σ) (name : String) (seen : List String) :
    Except DecodeError (List String) :=
  if seen.contains name && !shape.repeats then .error (.duplicateField name)
  else .ok (name :: seen)

/-- The first declared field that must be there and was not met. -/
def missing? (shape : Shape σ) (seen : List String) : Option String :=
  (shape.fields.find? fun f => !f.omissible && !seen.contains f.name).map (·.name)

/-- The result, unless a field is missing. -/
def complete (shape : Shape σ) (seen : List String) (s : σ) : Except DecodeError σ :=
  match shape.missing? seen with
  | some name => .error (.missingField name)
  | none => .ok s

/-- The result of an array that ends before some fields; `count` items are there. -/
def completeItems (shape : Shape σ) (s : σ) : Nat → List (Field σ) → Except DecodeError σ
  | _, [] => .ok s
  | count, f :: fs =>
      if f.omissible then shape.completeItems s (count + 1) fs
      else
        let n := shape.fields.length
        .error (.invalidLength count (shape.expected ++ " with " ++ toString n
          ++ (if n = 1 then " element" else " elements")))

/-! ## §5. Shapes from values. -/

/-- Take one field of an object; the names met so far come along. -/
def takeField (shape : Shape σ) (state : List String × σ) (entry : String × Json) :
    Except DecodeError (List String × σ) :=
  let (seen, s) := state
  match shape.field? entry.1 with
  | some f => do
      let seen ← shape.meet entry.1 seen
      let g ← f.update.value entry.2
      pure (seen, g s)
  | none =>
      match shape.others with
      | .skipped => .ok (seen, s)
      | .kept put => .ok (seen, put entry.1 entry.2 s)

/-- Take items as the fields in declaration order; `total` items were there at first,
`count` of them are taken. -/
def takeItems (shape : Shape σ) (total : Nat) :
    Nat → List (Field σ) → List Json → σ → Except DecodeError σ
  | count, fs, [], s => shape.completeItems s count fs
  | _, [], _ :: _, _ => .error (.invalidLength total "fewer elements in array")
  | count, f :: fs, v :: vs, s => do
      let g ← f.update.value v
      shape.takeItems total (count + 1) fs vs (g s)

/-- Take a value of this shape, starting from the values of the fields left out. -/
def take (shape : Shape σ) (start : σ) (v : Json) : Except DecodeError σ :=
  match v with
  | .obj fs => do
      let (seen, s) ← fs.foldlM shape.takeField ([], start)
      shape.complete seen s
  | .arr vs =>
      if shape.positional then shape.takeItems vs.length 0 shape.fields vs start
      else refuse shape.expected v
  | v => refuse shape.expected v

/-! ## §6. Shapes from texts. -/

/-- Read one field of an object after its key. -/
def readField (shape : Shape σ) (depth : Nat) (key : String) (state : List String × σ)
    (cs : List Char) : Reading ((List String × σ) × List Char) :=
  let (seen, s) := state
  match shape.field? key with
  | some f => do
      let seen ← locateInObject cs (shape.meet key seen)
      let cs ← Json.readColon cs
      let (g, rest) ← f.update.text depth cs
      pure ((seen, g s), rest)
  | none => do
      let cs ← Json.readColon cs
      match shape.others with
      | .skipped => do
          let rest ← Json.skipValue cs
          pure ((seen, s), rest)
      | .kept put => do
          let (v, rest) ← Json.readValue depth cs
          pure ((seen, put key v s), rest)

/-- The end of an array of which all fields are read. -/
def readEnd (cs : List Char) : Json.Reading (List Char) :=
  match Json.skipSpace cs with
  | [] => .error (.within .endInList [])
  | ']' :: rest => .ok rest
  | ',' :: rest =>
      match Json.skipSpace rest with
      | ']' :: rest => .error (.within .trailingComma (']' :: rest))
      | rest => .error (.within .trailingCharacters rest)
  | rest => .error (.within .trailingCharacters rest)

/-- Read items as the fields in declaration order; `count` items are read. -/
def readItems (shape : Shape σ) (depth : Nat) :
    Nat → List (Field σ) → σ → List Char → Reading (σ × List Char)
  | _, [], s, cs => do
      let rest ← readEnd cs
      pure (s, rest)
  | count, f :: fs, s, cs => do
      match ← (liftM (Json.nextItem (count == 0) cs) : Reading _) with
      | (false, rest) => do
          let s ← locate rest (shape.completeItems s count (f :: fs))
          pure (s, rest)
      | (true, rest) => do
          let (g, rest) ← f.update.text depth rest
          shape.readItems depth (count + 1) fs (g s) rest

/-- Refuse an array.  It is refused at its bracket where the undeclared fields of an
object are kept, since only an object has them; else it is entered first. -/
def refuseItems (shape : Shape σ) (depth : Nat) (rest : List Char) :
    Reading (σ × List Char) :=
  let refused : Except DecodeError (σ × List Char) :=
    .error (.invalidType .sequence shape.expected)
  match shape.others with
  | .kept _ => locate ('[' :: rest) refused
  | .skipped => nested depth rest fun _ => locateInList rest refused

/-- Read a value of this shape, starting from the values of the fields left out. -/
def read (shape : Shape σ) (start : σ) (depth : Nat) (cs : List Char) :
    Reading (σ × List Char) :=
  match Json.skipSpace cs with
  | '\x7b' :: rest =>
      nested depth rest fun depth => do
        let ((seen, s), rest) ←
          Json.foldFields (shape.readField depth) true ([], start) (rest.length + 1) rest
        let s ← locate rest (shape.complete seen s)
        pure (s, rest)
  | '[' :: rest =>
      if shape.positional then
        nested depth rest fun depth => shape.readItems depth 0 shape.fields start rest
      else shape.refuseItems depth rest
  | _ => refuseText shape.expected cs

/-- The decoder of a shape. -/
def decode (shape : Shape σ) (start : σ) : Decoder σ := ⟨shape.take start, shape.read start⟩

end Shape

end ConnectionRelay.Wire
