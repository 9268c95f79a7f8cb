/-
  ConnectionRelay.Logging.Pattern.Bracket
  ───────────────────────────────────────
  **CLASSES OF CHARACTERS IN BRACKETS.**

  A class lists characters, ranges and other classes, and may be cut with others.
-/
import ConnectionRelay.Logging.Pattern.Escape

namespace ConnectionRelay.Logging.Pattern

/-! ## §1. Items. -/

/-- Read a character or an escape. -/
def classAtom? (m : Mode) : List Char → Option (Atom × List Char)
  | [] => none
  | '\\' :: rest => escape? m rest
  | c :: rest => some (.literal ⟨c, false⟩, rest)

/-- An atom as an item of a class; the edges of words and texts are none. -/
def classItem? : Atom → Option ClassSet
  | .literal l => some (.literal l)
  | .kind negated => some (.kind negated)
  | .category => some .category
  | _ => none

/-- The character after a hyphen.  A number sign before it is passed over like a blank,
and what follows it is looked at even though it is a comment. -/
def afterHyphen? (m : Mode) (cs : List Char) : Option Char :=
  if m.spaced then
    match cs.dropWhile Text.isBlank with
    | '#' :: rest => (rest.dropWhile Text.isBlank).head?
    | rest => rest.head?
  else cs.head?

/-- Read the second half of a range. -/
def rangeFrom? (m : Mode) (first : Atom) (cs : List Char) : Option (ClassSet × List Char) :=
  match first, classAtom? m (skip m cs) with
  | .literal a, some (.literal b, rest) =>
      if a.char ≤ b.char then some (.range a b, rest) else none
  | _, _ => none

/-- Read an item or a range.  A hyphen before the closing bracket or before another
hyphen makes no range. -/
def classRange? (m : Mode) (cs : List Char) : Option (ClassSet × List Char) :=
  match classAtom? m cs with
  | none => none
  | some (first, rest) =>
      let single := (classItem? first).map fun item => (item, rest)
      match skip m rest with
      | '-' :: after =>
          let next := afterHyphen? m after
          if next = some ']' ∨ next = some '-' then single else rangeFrom? m first after
      | _ => single

/-- The names of the classes of ASCII characters. -/
def asciiClasses : List String :=
  ["alnum", "alpha", "ascii", "blank", "cntrl", "digit", "graph", "lower", "print", "punct",
   "space", "upper", "word", "xdigit"]

/-- Read a class of ASCII characters after its first bracket. -/
def asciiClass? : List Char → Option (ClassSet × List Char)
  | ':' :: cs =>
      let negated := cs.head? = some '^'
      let cs := if negated then cs.tail else cs
      match cs.dropWhile (· ≠ ':') with
      | ':' :: ']' :: rest =>
          if asciiClasses.contains (String.ofList (cs.takeWhile (· ≠ ':'))) then
            some (.named negated, rest)
          else none
      | _ => none
  | _ => none

/-! ## §2. Classes. -/

/-- Read hyphens that stand for themselves; `fuel` bounds their number. -/
def hyphens (m : Mode) : (fuel : Nat) → List Char → List ClassSet × List Char
  | fuel + 1, '-' :: rest =>
      let (items, rest) := hyphens m fuel (skip m rest)
      (.literal ⟨'-', false⟩ :: items, rest)
  | _, cs => ([], cs)

/-- Read what a class may begin with: hyphens, or a bracket that stands for itself. -/
def firstItems (m : Mode) (cs : List Char) : List ClassSet × List Char :=
  match cs with
  | ']' :: rest => ([.literal ⟨']', false⟩], rest)
  | cs => hyphens m cs.length cs

/-- Read the start of a class after its bracket: whether the class is negated, and its
first items. -/
def classStart (m : Mode) (cs : List Char) : Bool × List ClassSet × List Char :=
  match skip m cs with
  | '^' :: rest => (true, firstItems m (skip m rest))
  | cs => (false, firstItems m cs)

/-- The set of some items, the last one first, cut with the set before them. -/
def combine (left : Option ClassSet) (items : List ClassSet) : ClassSet :=
  let set := ClassSet.ofItems items.reverse
  match left with
  | some left => .combination left set
  | none => set

/-- Read the items of a class up to its closing bracket; `fuel` bounds their number. -/
def classItems? (m : Mode) :
    (fuel : Nat) → Option ClassSet → List ClassSet → List Char → Option (ClassSet × List Char)
  | 0, _, _, _ => none
  | fuel + 1, left, items, cs =>
      match skip m cs with
      | [] => none
      | ']' :: rest => some (combine left items, rest)
      | '[' :: rest =>
          match asciiClass? rest with
          | some (item, rest) => classItems? m fuel left (item :: items) rest
          | none =>
              let (negated, first, rest) := classStart m rest
              match classItems? m fuel none first.reverse rest with
              | some (set, rest) => classItems? m fuel left (.bracket negated set :: items) rest
              | none => none
      | '&' :: '&' :: rest => classItems? m fuel (some (combine left items)) [] rest
      | '-' :: '-' :: rest => classItems? m fuel (some (combine left items)) [] rest
      | '~' :: '~' :: rest => classItems? m fuel (some (combine left items)) [] rest
      | cs =>
          match classRange? m cs with
          | some (item, rest) => classItems? m fuel left (item :: items) rest
          | none => none

/-- Read a class after its bracket. -/
def bracket? (m : Mode) (cs : List Char) : Option (Pattern × List Char) :=
  let (negated, first, rest) := classStart m cs
  (classItems? m (rest.length + 1) none first.reverse rest).map fun (set, rest) =>
    (.bracket negated set, rest)

end ConnectionRelay.Logging.Pattern
