/-
  ConnectionRelay.Allowlist
  ─────────────────────────
  **WHICH KEYS MAY BE PUBLISHED.**

  An allow-list without keys allows every key, any other one just its own.  In a
  setting it is written as a list with commas; blanks around keys do not count, and
  neither do segments that are all blank.
-/
import ConnectionRelay.Details
import ConnectionRelay.Text.Blank
import ConnectionRelay.Text.Quoted
import ConnectionRelay.Text.Split

namespace ConnectionRelay

/-- The keys that may be published. -/
structure Allowlist where
  keys : List String := []
  deriving DecidableEq, Repr

namespace Allowlist

/-! ## §1. What is allowed. -/

/-- May this key be published? -/
def allows (a : Allowlist) (key : String) : Bool := a.keys.isEmpty || a.keys.contains key

/-- The details that may be published. -/
def restrict (a : Allowlist) (details : Details) : Details := details.filterKeys a.allows

/-! ## §2. The written form. -/

/-- Read a list of keys with commas between them. -/
def parseKeys (text : String) : List String :=
  (((Text.split ',' text.toList).map Text.trim).filter fun key => !key.isEmpty).map String.ofList

/-- Read an allow-list. -/
def parse (text : String) : Allowlist := ⟨parseKeys text⟩

/-- What a list of at most one key looks like in messages. -/
def describe? (a : Allowlist) : Option String :=
  match a.keys.eraseDups with
  | [] => some "\x7b\x7d"
  | [key] => some ("\x7b" ++ Text.quoted key ++ "\x7d")
  | _ => none

end Allowlist

end ConnectionRelay
