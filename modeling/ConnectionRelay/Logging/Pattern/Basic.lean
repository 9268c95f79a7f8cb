/-
  ConnectionRelay.Logging.Pattern.Basic
  ─────────────────────────────────────
  **PATTERNS FOR THE VALUES OF FIELDS.**

  A filter may ask for the value of a span's field by a regular expression.  No line is
  in a span, so only one thing matters of a pattern: whether it is one.
  Two rules go beyond its grammar.  Its parts may be nested only so deep
  (`Pattern.nesting`), and it may match nothing but whole characters (`Pattern.after?`):
  where a flag makes it match bytes, it may speak of ASCII characters alone, and where
  it does not, the edges of words are refused, since no table of states can find them.
-/

namespace ConnectionRelay.Logging

/-! ## §1. Flags. -/

/-- A change of flags. -/
structure FlagChange where
  /-- The flags that are set. -/
  on : List Char := []
  /-- The flags that are cleared. -/
  off : List Char := []
  deriving DecidableEq, Repr

/-- What a flag is after a change. -/
def FlagChange.apply (change : FlagChange) (flag : Char) (before : Bool) : Bool :=
  change.on.contains flag || (before && !change.off.contains flag)

/-- The flags that matter for whether a text is a pattern. -/
structure Mode where
  /-- Blanks and comments do not count. -/
  spaced : Bool := false
  /-- The case of letters does not count. -/
  ignoreCase : Bool := false
  /-- Characters are matched; else bytes are. -/
  unicode : Bool := true
  deriving DecidableEq, Repr

/-- The mode after a change of flags. -/
def Mode.change (m : Mode) (change : FlagChange) : Mode where
  spaced := change.apply 'x' m.spaced
  ignoreCase := change.apply 'i' m.ignoreCase
  unicode := change.apply 'u' m.unicode

/-! ## §2. Patterns. -/

/-- A character that stands for itself. -/
structure Literal where
  char : Char
  /-- Is it written by the two digits of a byte? -/
  isByte : Bool := false
  deriving DecidableEq, Repr

/-- Is it a character of ASCII? -/
def Literal.isAscii (l : Literal) : Bool := l.char.toNat < 0x80

/-- A pattern without parts. -/
inductive Atom where
  | literal (l : Literal)
  /-- Any character. -/
  | any
  /-- Digits, blanks or word characters, or all but these. -/
  | kind (negated : Bool)
  /-- A general category. -/
  | category
  /-- The start or the end of a line or of the text. -/
  | edge
  /-- The edge of a word. -/
  | wordEdge
  deriving DecidableEq, Repr

/-- What stands in the brackets of a class. -/
inductive ClassSet where
  | nothing
  | literal (l : Literal)
  | range (first last : Literal)
  | kind (negated : Bool)
  | category
  /-- A class of ASCII characters that has a name, or all but these. -/
  | named (negated : Bool)
  | bracket (negated : Bool) (set : ClassSet)
  | union (items : List ClassSet)
  /-- An intersection or a difference. -/
  | combination (left right : ClassSet)

/-- A pattern. -/
inductive Pattern where
  | empty
  | atom (a : Atom)
  | bracket (negated : Bool) (set : ClassSet)
  /-- A change of flags for what follows. -/
  | flags (change : FlagChange)
  /-- A group, inside which some flags are changed. -/
  | group (change : FlagChange) (body : Pattern)
  | repetition (body : Pattern)
  | sequence (items : List Pattern)
  | choice (branches : List Pattern)

/-- The set of some items. -/
def ClassSet.ofItems : List ClassSet → ClassSet
  | [] => .nothing
  | [item] => item
  | items => .union items

/-- The pattern of some items in a row. -/
def Pattern.ofItems : List Pattern → Pattern
  | [] => .empty
  | [item] => item
  | items => .sequence items

/-! ## §3. Nesting. -/

mutual

/-- How deep the parts of a set are nested. -/
def ClassSet.nesting : ClassSet → Nat
  | .bracket _ set => set.nesting + 1
  | .union items => ClassSet.nestingOfItems items + 1
  | .combination left right => max left.nesting right.nesting + 1
  | _ => 0

/-- How deep the parts of some sets are nested. -/
def ClassSet.nestingOfItems : List ClassSet → Nat
  | [] => 0
  | item :: items => max item.nesting (ClassSet.nestingOfItems items)

end

mutual

/-- How deep the parts of a pattern are nested. -/
def Pattern.nesting : Pattern → Nat
  | .bracket _ set => set.nesting + 1
  | .group _ body => body.nesting + 1
  | .repetition body => body.nesting + 1
  | .sequence items => Pattern.nestingOfItems items + 1
  | .choice branches => Pattern.nestingOfItems branches + 1
  | _ => 0

/-- How deep the parts of some patterns are nested. -/
def Pattern.nestingOfItems : List Pattern → Nat
  | [] => 0
  | item :: items => max item.nesting (Pattern.nestingOfItems items)

end

/-- How deep parts may be nested. -/
def Pattern.nestingLimit : Nat := 250

/-! ## §4. Whole characters. -/

/-- Does an atom match whole characters in a mode, and can they be found? -/
def Atom.fits (m : Mode) : Atom → Bool
  | .literal l => m.unicode || l.isAscii || (!l.isByte && !m.ignoreCase)
  | .any => m.unicode
  | .kind negated => m.unicode || !negated
  | .category => m.unicode
  | .edge => true
  | .wordEdge => !m.unicode

mutual

/-- Does a set speak of ASCII characters alone? -/
def ClassSet.isAscii : ClassSet → Bool
  | .nothing => true
  | .literal l => l.isAscii
  | .range first last => first.isAscii && last.isAscii
  | .kind negated => !negated
  | .category => false
  | .named negated => !negated
  | .bracket negated set => !negated && set.isAscii
  | .union items => ClassSet.areAscii items
  | .combination left right => left.isAscii && right.isAscii

/-- Do some sets speak of ASCII characters alone? -/
def ClassSet.areAscii : List ClassSet → Bool
  | [] => true
  | item :: items => item.isAscii && ClassSet.areAscii items

end

mutual

/-- The mode after a pattern that begins in a mode, if it matches whole characters. -/
def Pattern.after? (m : Mode) : Pattern → Option Mode
  | .empty => some m
  | .atom a => if a.fits m then some m else none
  | .bracket negated set =>
      if m.unicode || (!negated && set.isAscii) then some m else none
  | .flags change => some (m.change change)
  | .group change body => (body.after? (m.change change)).map fun _ => m
  | .repetition body => body.after? m
  | .sequence items => Pattern.afterItems? m items
  | .choice branches => Pattern.afterItems? m branches

/-- The mode after some patterns; flags that a branch of a choice sets stay set in
those that follow. -/
def Pattern.afterItems? (m : Mode) : List Pattern → Option Mode
  | [] => some m
  | item :: items =>
      match item.after? m with
      | some m => Pattern.afterItems? m items
      | none => none

end

end ConnectionRelay.Logging
