/-
  ConnectionRelay.Wire.Document
  ─────────────────────────────
  **READING WIRE TYPES FROM A WHOLE TEXT.**

  Nothing but white space may follow the document.
-/
import ConnectionRelay.Wire.Decoding

namespace ConnectionRelay.Wire

namespace Decoder

variable {α : Type}

/-- Read a wire type from a text, or tell where and why reading stopped. -/
def read (d : Decoder α) (text : String) : Reading α := do
  let (a, rest) ← d.text Json.depthLimit text.toList
  Json.readEnd rest
  pure a

/-- Read a wire type from a text. -/
def document (d : Decoder α) (text : String) : Except DecodeError α :=
  (d.read text).mapError Stop.cause

end Decoder

end ConnectionRelay.Wire
